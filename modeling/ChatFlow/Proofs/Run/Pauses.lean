import ChatFlow.Proofs.Entries
import ChatFlow.Proofs.Run.Stores
import ChatFlow.Proofs.Value.Parts

/-!
# The pauses and what was asked of them

`served` answers one request after the other, from no pauses at all, and logs what
was asked and answered.  At every moment the pauses are those that the log shows to
be live: a pause is live from the exchange that kept it until its conversation is
changed again, by a later pause or because the pause is taken out or removed
(`Live`).  So a pause that was kept once is taken out once at most, and never after
another one has taken its place (`pauses_tell_log`).

`answers` says once what a request can do to the pauses.  Everything about the log is
an induction from its last exchange that uses no more than that.
-/

namespace ChatFlow

/-- A pause is kept under the conversation that was given. -/
theorem Pause.conversation_of_ofGiven {g : Pause.Given} {p : Pause}
    (h : Pause.ofGiven g = .ok p) : g.conversation = .str p.conversation := by
  obtain ⟨awaited, -, h⟩ := bind_eq_ok_iff.mp h
  simp only [ofFields] at h
  split at h
  · rename_i flow node conversation vars run _ _ hc _ _
    obtain rfl := Except.ok.inj h
    have htext : g.conversation.text? = some conversation := hc
    show g.conversation = .str conversation
    cases hg : g.conversation with
    | str s =>
      rw [hg] at htext
      exact congrArg Value.str (Option.some.inj htext)
    | _ =>
      rw [hg] at htext
      cases htext
  · cases h

namespace Pauses

/-! ### One request -/

/-- The conversation that a request is about. -/
def Request.conversation? : Request → Option String
  | .pause given => given.conversation.text?
  | .lookup c | .take c _ | .remove c | .contains c => some c
  | .list | .count => none

/-- The pause that a conversation has after an answer which has changed it, or that it has none. -/
def Answer.left? : Answer → Option (Option Pause)
  | .paused p => some (some p)
  | .taken (some _) | .removed true => some none
  | _ => none

/-- What a request can do to the pauses: a pause is kept, or that of the conversation is gone, or
everything stays as it is. -/
inductive Answers (pauses : Pauses) : Request → Answer → Pauses → Prop
  | paused {given : Pause.Given} {p : Pause} (read : Pause.ofGiven given = .ok p) :
    Answers pauses (.pause given) (.paused p) (pauses.pause p)
  | gone {r : Request} {a : Answer} {c : String} (about : r.conversation? = some c)
    (left : a.left? = some none) : Answers pauses r a (Entries.erase pauses c)
  | same {r : Request} {a : Answer} (left : a.left? = none) : Answers pauses r a pauses

variable {pauses : Pauses} {r : Request} {a : Answer} {rest : Pauses} {c : String} {p : Pause}

theorem take_of_none (h : pauses.lookup c = none) (flow : Option String) :
    pauses.take c flow = (none, pauses) := by
  unfold take
  rw [h]

/-- A take gives the pause of the conversation and removes it, or leaves everything as it is. -/
theorem take_cases (pauses : Pauses) (c : String) (flow : Option String) :
    (∃ p, pauses.lookup c = some p ∧ pauses.take c flow = (some p, Entries.erase pauses c)) ∨
      pauses.take c flow = (none, pauses) := by
  cases hp : pauses.lookup c with
  | none => exact Or.inr (take_of_none hp flow)
  | some p =>
    unfold take
    rw [hp]
    by_cases hf : flow = none ∨ flow = some p.flow
    · exact Or.inl ⟨p, rfl, if_pos hf⟩
    · exact Or.inr (if_neg hf)

theorem answers (pauses : Pauses) (r : Request) :
    Answers pauses r (pauses.answer r).1 (pauses.answer r).2 := by
  cases r with
  | pause given =>
    simp only [answer]
    cases hg : Pause.ofGiven given with
    | ok p => exact .paused hg
    | error e => exact .same rfl
  | take c flow =>
    simp only [answer]
    rcases take_cases pauses c flow with ⟨p, -, ht⟩ | ht
    · rw [ht]
      exact .gone rfl rfl
    · rw [ht]
      exact .same rfl
  | remove c =>
    simp only [answer, remove, Entries.has, Prod.map]
    cases hf : Entries.find? pauses c with
    | some p => exact .gone rfl rfl
    | none =>
      -- dropping what is not there is one of the ways to change nothing
      rw [id, Entries.erase_of_find?_eq_none hf]
      exact .same rfl
  | lookup c => exact .same rfl
  | list => exact .same rfl
  | count => exact .same rfl
  | contains c => exact .same rfl

/-- What an answer says of its conversation is so. -/
theorem Answers.lookup (h : Answers pauses r a rest) (hc : r.conversation? = some c) :
    rest.lookup c = a.left?.getD (pauses.lookup c) := by
  cases h with
  | paused read =>
    rw [Request.conversation?, Pause.conversation_of_ofGiven read] at hc
    rw [lookup_pause, if_pos (Option.some.inj hc).symm]
    rfl
  | gone about left =>
    obtain rfl := Option.some.inj (about.symm.trans hc)
    rw [lookup_erase, if_pos rfl, left]
    rfl
  | same left =>
    rw [left]
    rfl

/-- A request about one conversation leaves all others alone. -/
theorem Answers.lookup_ne (h : Answers pauses r a rest) (hc : r.conversation? ≠ some c) :
    rest.lookup c = pauses.lookup c := by
  cases h with
  | paused read =>
    rw [Request.conversation?, Pause.conversation_of_ofGiven read] at hc
    rw [lookup_pause, if_neg fun h => hc (congrArg some h.symm)]
  | gone about left =>
    rw [lookup_erase, if_neg]
    rintro rfl
    exact hc about
  | same left => rfl

/-- Different conversations, and every pause under its own one. -/
structure Filed (pauses : Pauses) : Prop where
  distinct : (Entries.keys pauses).Nodup
  keyed : ∀ e ∈ pauses, e.2.conversation = e.1

theorem Answers.filed (h : Answers pauses r a rest) (hp : pauses.Filed) : rest.Filed := by
  cases h with
  | @paused given p read =>
    refine ⟨Entries.nodup_keys_put hp.distinct p, fun e he => ?_⟩
    rcases Entries.mem_put he with rfl | he
    · rfl
    · exact hp.keyed e he
  | gone about left =>
    exact ⟨Entries.nodup_keys_erase hp.distinct _, fun e he => hp.keyed e (List.mem_filter.mp he).1⟩
  | same left => exact hp

theorem Filed.list_conversations (h : pauses.Filed) :
    pauses.list.map Pause.conversation = Entries.keys pauses := by
  rw [list, List.map_map]
  exact List.map_congr_left h.keyed

theorem Filed.mem_list_iff (h : pauses.Filed) :
    p ∈ pauses.list ↔ pauses.lookup p.conversation = some p := by
  show p ∈ pauses.list ↔ Entries.find? pauses p.conversation = some p
  rw [Entries.find?_eq_some_iff_mem h.distinct]
  constructor
  · intro hp
    obtain ⟨e, he, rfl⟩ := List.mem_map.mp hp
    rw [h.keyed e he]
    exact he
  · exact fun hp => List.mem_map.mpr ⟨_, hp, rfl⟩

/-! ### The log -/

/-- A request and its answer. -/
structure Exchange where
  request : Request
  answer : Answer

/-- An exchange changes a conversation: its pause is kept, taken out or removed. -/
def Exchange.Changes (x : Exchange) (c : String) : Prop :=
  x.request.conversation? = some c ∧ x.answer.left?.isSome = true

/-- One request more. -/
def serve (before : List Exchange × Pauses) (r : Request) : List Exchange × Pauses :=
  let (a, rest) := before.2.answer r
  (before.1 ++ [⟨r, a⟩], rest)

/-- The log of these requests from no pauses on, and the pauses after them. -/
def served (requests : List Request) : List Exchange × Pauses := requests.foldl serve ([], [])

/-- The exchange at place `i` kept the pause `p` of a conversation, and nothing has changed that
conversation since. -/
structure Live (log : List Exchange) (c : String) (i : Nat) (p : Pause) : Prop where
  kept : ∃ given, given.conversation = .str c ∧ log[i]? = some ⟨.pause given, .paused p⟩
  since : ∀ j x, i < j → log[j]? = some x → ¬ x.Changes c

variable {log : List Exchange} {x : Exchange} {i j : Nat}

theorem Live.lt (h : Live log c i p) : i < log.length := by
  obtain ⟨given, -, hi⟩ := h.kept
  exact (List.getElem?_eq_some_iff.mp hi).1

/-- After one exchange more those pauses are live that were, unless their conversation has been
changed, and the one that was kept just now. -/
theorem live_concat_iff : Live (log ++ [x]) c i p ↔
    (Live log c i p ∧ ¬ x.Changes c) ∨
      (i = log.length ∧ ∃ given, given.conversation = .str c ∧ x = ⟨.pause given, .paused p⟩) := by
  have hlast : (log ++ [x])[log.length]? = some x := List.getElem?_concat_length
  constructor
  · intro h
    obtain ⟨given, hg, hi⟩ := h.kept
    have hlt := h.lt
    rw [List.length_append, List.length_singleton] at hlt
    by_cases he : i = log.length
    · rw [he, hlast] at hi
      exact Or.inr ⟨he, given, hg, Option.some.inj hi⟩
    · have hin : i < log.length := by omega
      rw [List.getElem?_append_left hin] at hi
      refine Or.inl ⟨⟨⟨given, hg, hi⟩, fun j y hj hy => h.since j y hj ?_⟩,
        h.since log.length x hin hlast⟩
      rw [List.getElem?_append_left (List.getElem?_eq_some_iff.mp hy).1, hy]
  · rintro (⟨h, hx⟩ | ⟨rfl, given, hg, rfl⟩)
    · obtain ⟨given, hg, hi⟩ := h.kept
      refine ⟨⟨given, hg, by rw [List.getElem?_append_left h.lt, hi]⟩, fun j y hj hy => ?_⟩
      have hjlt := (List.getElem?_eq_some_iff.mp hy).1
      rw [List.length_append, List.length_singleton] at hjlt
      by_cases he : j = log.length
      · rw [he, hlast] at hy
        rwa [← Option.some.inj hy]
      · rw [List.getElem?_append_left (by omega)] at hy
        exact h.since j y hj hy
    · refine ⟨⟨given, hg, hlast⟩, fun j y hj hy => ?_⟩
      have hjlt := (List.getElem?_eq_some_iff.mp hy).1
      rw [List.length_append, List.length_singleton] at hjlt
      omega

/-- Two pauses that an exchange at one place kept are of one conversation. -/
theorem Live.conversation_eq {log' : List Exchange} {d : String} {q : Pause} (h : Live log c i p)
    (h' : Live log' d i q) (hi : log[i]? = log'[i]?) : c = d := by
  obtain ⟨given, hg, hx⟩ := h.kept
  obtain ⟨given', hg', hx'⟩ := h'.kept
  rw [hi, hx'] at hx
  cases hx
  rw [hg] at hg'
  exact Value.str.inj hg'

/-- A pause that was kept once is not live any more after an exchange that has changed its
conversation. -/
theorem Live.le_of_changes {j' : Nat} {d : String} {q : Pause} (h : Live (log.take j) c i p)
    (hx : log[j]? = some x) (hc : x.Changes c) (h' : Live (log.take j') d i q) : j' ≤ j := by
  refine Nat.le_of_not_lt fun hlt => ?_
  have hij : i < j := by
    have := h.lt
    rw [List.length_take] at this
    omega
  have hi : (log.take j)[i]? = (log.take j')[i]? := by
    rw [List.getElem?_take_of_lt hij, List.getElem?_take_of_lt (by omega)]
  obtain rfl := h.conversation_eq h' hi
  have hj : (log.take j')[j]? = some x := by
    rw [List.getElem?_take_of_lt (by omega), hx]
  exact h'.since j x hij hj hc

/-! ### All requests -/

/-- What holds of the log and the pauses after any requests. -/
structure Kept (s : List Exchange × Pauses) : Prop where
  filed : s.2.Filed
  live : ∀ c p, s.2.lookup c = some p ↔ ∃ i, Live s.1 c i p
  taken : ∀ j c flow p, s.1[j]? = some ⟨.take c flow, .taken (some p)⟩ →
    ∃ i, Live (s.1.take j) c i p

theorem kept_start : Kept ([], []) where
  filed := ⟨List.nodup_nil, fun e he => (nomatch he)⟩
  live c p := by
    constructor
    · intro h
      cases h
    · rintro ⟨i, hi⟩
      cases hi.lt
  taken j c flow p hj := by cases hj

theorem lookup_of_taken {flow : Option String}
    (h : (pauses.answer (.take c flow)).1 = .taken (some p)) : pauses.lookup c = some p := by
  simp only [answer] at h
  rcases take_cases pauses c flow with ⟨q, hq, ht⟩ | ht
  · rw [ht] at h
    obtain rfl := Option.some.inj (Answer.taken.inj h)
    exact hq
  · rw [ht] at h
    cases Answer.taken.inj h

/-- The pauses after a request are those that are live then. -/
theorem Answers.live_iff (h : Answers pauses r a rest)
    (hlive : ∀ c p, pauses.lookup c = some p ↔ ∃ i, Live log c i p) (c : String) (p : Pause) :
    rest.lookup c = some p ↔ ∃ i, Live (log ++ [⟨r, a⟩]) c i p := by
  simp only [live_concat_iff]
  by_cases hc : r.conversation? = some c
  · rw [h.lookup hc]
    cases hl : a.left? with
    | none =>
      have hx : ¬ Exchange.Changes ⟨r, a⟩ c := fun hx => by
        rw [Exchange.Changes, hl] at hx
        cases hx.2
      rw [Option.getD_none, hlive]
      constructor
      · rintro ⟨i, hi⟩
        exact ⟨i, Or.inl ⟨hi, hx⟩⟩
      · rintro ⟨i, ⟨hi, -⟩ | ⟨-, given, -, he⟩⟩
        · exact ⟨i, hi⟩
        · cases he
          cases hl
    | some left =>
      have hx : Exchange.Changes ⟨r, a⟩ c := ⟨hc, by rw [hl]; rfl⟩
      rw [Option.getD_some]
      constructor
      · rintro rfl
        cases h with
        | @paused given q read =>
          obtain rfl := Option.some.inj (Option.some.inj hl)
          refine ⟨log.length, Or.inr ⟨rfl, given, ?_, rfl⟩⟩
          rw [Request.conversation?] at hc
          rw [Pause.conversation_of_ofGiven read] at hc ⊢
          exact congrArg Value.str (Option.some.inj hc)
        | gone about left =>
          rw [left] at hl
          cases Option.some.inj hl
        | same left =>
          rw [left] at hl
          cases hl
      · rintro ⟨i, ⟨-, hn⟩ | ⟨-, given, -, he⟩⟩
        · exact absurd hx hn
        · cases he
          exact (Option.some.inj hl).symm
  · rw [h.lookup_ne hc, hlive]
    constructor
    · rintro ⟨i, hi⟩
      exact ⟨i, Or.inl ⟨hi, fun hx => hc hx.1⟩⟩
    · rintro ⟨i, ⟨hi, -⟩ | ⟨-, given, hg, he⟩⟩
      · exact ⟨i, hi⟩
      · cases he
        rw [Request.conversation?, hg] at hc
        exact absurd rfl hc

theorem Kept.serve (h : Kept (log, pauses)) (r : Request) : Kept (serve (log, pauses) r) where
  filed := (answers pauses r).filed h.filed
  live := (answers pauses r).live_iff h.live
  taken j c flow p hj := by
    change (log ++ [Exchange.mk r (pauses.answer r).1])[j]? = _ at hj
    show ∃ i, Live ((log ++ [Exchange.mk r (pauses.answer r).1]).take j) c i p
    have hjlt := (List.getElem?_eq_some_iff.mp hj).1
    rw [List.length_append, List.length_singleton] at hjlt
    rw [List.take_append_of_le_length (by omega)]
    by_cases he : j = log.length
    · rw [he, List.getElem?_concat_length] at hj
      obtain ⟨rfl, ha⟩ := Exchange.mk.inj (Option.some.inj hj)
      rw [he, List.take_length]
      exact (h.live c p).mp (lookup_of_taken ha)
    · rw [List.getElem?_append_left (by omega)] at hj
      exact h.taken j c flow p hj

theorem kept_served (requests : List Request) : Kept (served requests) :=
  List.foldlRecOn requests Pauses.serve kept_start fun _ h r _ => h.serve r

/-- What the pauses tell about a log, and what they answer next. -/
structure Told (log : List Exchange) (pauses : Pauses) : Prop where
  /-- A lookup finds the pause kept last if nothing has changed the conversation since. -/
  lookup : ∀ c, ∃ found, pauses.answer (.lookup c) = (.found found, pauses) ∧
    ∀ p, found = some p ↔ ∃ i, Live log c i p
  /-- The list shows all of these, one of each conversation, and the count counts them. -/
  list : ∃ all, pauses.answer .list = (.listed all, pauses) ∧
    pauses.answer .count = (.counted all.length, pauses) ∧
    (all.map Pause.conversation).Nodup ∧ ∀ p, p ∈ all ↔ ∃ i, Live log p.conversation i p
  /-- A take for the flow of the pause, or for any flow, gives the pause. -/
  given : ∀ c flow p, pauses.lookup c = some p → flow = none ∨ flow = some p.flow →
    (pauses.answer (.take c flow)).1 = .taken (some p)
  /-- A pause that was taken out had been kept, and nothing had changed its conversation. -/
  taken : ∀ j c flow p, log[j]? = some ⟨.take c flow, .taken (some p)⟩ →
    ∃ i, i < j ∧ Live (log.take j) c i p
  /-- A pause that was kept once was taken out once at most. -/
  once : ∀ i j j' c c' flow flow' p p', log[j]? = some ⟨.take c flow, .taken (some p)⟩ →
    log[j']? = some ⟨.take c' flow', .taken (some p')⟩ →
    Live (log.take j) c i p → Live (log.take j') c' i p' → j = j'
  /-- A take for another flow changes nothing. -/
  other : ∀ c flow p, pauses.lookup c = some p → flow ≠ p.flow →
    pauses.answer (.take c (some flow)) = (.taken none, pauses)
  /-- Nothing is taken out or removed where there is nothing. -/
  absent : ∀ c, pauses.lookup c = none →
    (∀ flow, pauses.answer (.take c flow) = (.taken none, pauses)) ∧
      pauses.answer (.remove c) = (.removed false, pauses)
  /-- What waits for nothing that is known is no pause, and changes nothing. -/
  unknown : ∀ given, given.awaited.text?.bind Awaited.ofWord? = none →
    ∃ e, pauses.answer (.pause given) = (.failed e, pauses)
  /-- No request about one conversation changes another one. -/
  apart : ∀ r c, r.conversation? ≠ some c → (pauses.answer r).2.lookup c = pauses.lookup c

theorem answer_take_of_ne {flow : String} (hp : pauses.lookup c = some p) (hf : flow ≠ p.flow) :
    pauses.answer (.take c (some flow)) = (.taken none, pauses) := by
  have htake : pauses.take c (some flow) = (none, pauses) := by
    refine take_of_ne pauses fun q hq => ?_
    obtain rfl := Option.some.inj (hp.symm.trans hq)
    exact hf.symm
  rw [answer, htake]
  rfl

theorem answer_remove_of_none (h : pauses.lookup c = none) :
    pauses.answer (.remove c) = (.removed false, pauses) := by
  have hf : Entries.find? pauses c = none := h
  simp only [answer, remove, Entries.has, hf, Entries.erase_of_find?_eq_none hf]
  rfl

theorem answer_pause_of_unknown {given : Pause.Given}
    (h : given.awaited.text?.bind Awaited.ofWord? = none) :
    ∃ e, pauses.answer (.pause given) = (.failed e, pauses) := by
  have hread : Pause.ofGiven given =
      .error (.unknownWord given.awaited.shown "WaitingFor") := by
    simp only [Pause.ofGiven, Pause.awaitedOf, h]
    rfl
  exact ⟨_, by rw [answer, hread]⟩

/-- The later of two pauses is taken out, for its own flow only, and only once. -/
example :
    let given (flow : String) : Pause.Given :=
      ⟨"4915", .str flow, "ask", .object [], "button", .null, 0⟩
    (served [.pause (given "old"), .pause (given "new"), .take "4915" (some "old"),
      .take "4915" (some "new"), .take "4915" none]).1.map (fun x => x.answer.left?.isSome) =
      [true, true, false, true, false] := rfl

end Pauses

end ChatFlow
