import ChatFlow.Proofs.Decimal.Whole
import ChatFlow.Proofs.Node.Delivering

/-!
# What services make of outcomes

A request that is answered is a reply, and without a reply it has timed out or broken off.  `Concludes`
says what a service makes of each: without a reply it reports no success, and a reply may baffle it,
or else it reports one thing or the other.  Each service has a lemma of its own that says which
replies baffle it: those whose text cannot be read (`WhatsApp.Delivery.concludes`,
`Http.Exchange.concludes`), none (`Sheet.Writing.concludes`), a mail accepted by something other than
an object (`Email.Posting.concludes`), and a language model's reply in another form than its provider
promises (`Completion.Completed.concludes`, `Completion.Follows`).
-/

namespace ChatFlow

/-- What a service makes of the outcome of a request, and dumps as a report: a reply may baffle it, and
without a reply it reports no success. -/
structure Concludes {α : Type} (f : HttpOutcome → Except Failure α) (dump : α → Value)
    (baffles : HttpReply → Prop) : Prop where
  fails : ∀ reply, (∃ e, f (.replied reply) = .error e) ↔ baffles reply
  told : ∀ a, ∃ success, (dump a).field? "success" = some (.bool success)
  timedOut : ∀ reason, ∃ a, f (.timedOut reason) = .ok a ∧
    (dump a).field? "success" = some (.bool false)
  broken : ∀ reason, ∃ a, f (.broken reason) = .ok a ∧
    (dump a).field? "success" = some (.bool false)

/-! ### Messages, requests, tables and mails -/

theorem exists_map_error_iff {α β : Type} {r : Except Failure α} {f : α → β} :
    (∃ e, r.map f = .error e) ↔ ∃ e, r = .error e := by
  cases r with
  | error e => exact iff_of_true ⟨e, rfl⟩ ⟨e, rfl⟩
  | ok a => exact iff_of_false (fun ⟨_, h⟩ => nomatch h) fun ⟨_, h⟩ => nomatch h

theorem exists_return_error_iff {α β : Type} {r : Except Failure α} {f : α → β} :
    (∃ e, (do return f (← r) : Except Failure β) = .error e) ↔ ∃ e, r = .error e := by
  have hmap : (do return f (← r) : Except Failure β) = r.map f := by
    cases r <;> rfl
  rw [hmap, exists_map_error_iff]

theorem WhatsApp.Delivery.success_dump (d : Delivery) :
    d.dump.field? "success" = some (.bool d.success) := rfl

theorem WhatsApp.Delivery.concludes : Concludes ofOutcome dump fun reply => ¬ reply.Readable where
  fails reply := by
    rw [ofOutcome_replied, exists_map_error_iff, exists_error_iff, readable_iff]
  told d := ⟨d.success, d.success_dump⟩
  timedOut _ := ⟨_, rfl, rfl⟩
  broken _ := ⟨_, rfl, rfl⟩

theorem Http.Exchange.concludes (timeout : Value) :
    Concludes (ofOutcome timeout) dump fun reply => ∃ e, reply.text = .error e where
  fails _ := exists_return_error_iff
  told e := by
    cases e with
    | answered => exact ⟨true, rfl⟩
    | failed => exact ⟨false, rfl⟩
  timedOut _ := ⟨_, rfl, rfl⟩
  broken _ := ⟨_, rfl, rfl⟩

theorem Sheet.Writing.concludes : Concludes (fun o => .ok (ofOutcome o)) dump fun _ => False where
  fails _ := iff_of_false (fun ⟨_, h⟩ => nomatch h) id
  told w := by
    cases w with
    | written => exact ⟨true, rfl⟩
    | skipped => exact ⟨true, rfl⟩
    | failed => exact ⟨false, rfl⟩
  timedOut _ := ⟨_, rfl, rfl⟩
  broken _ := ⟨_, rfl, rfl⟩

/-- A mail is accepted by something other than an object. -/
def Email.Baffles (reply : HttpReply) : Prop :=
  reply.status < 400 ∧ ∃ data, Json.parseBytes? reply.body = some data ∧ data.isObject = false

theorem Email.Posting.exists_ofReply_error_iff (reply : HttpReply) :
    (∃ e, ofReply reply = .error e) ↔ Baffles reply := by
  unfold ofReply Baffles
  cases Json.parseBytes? reply.body with
  | none => exact iff_of_false (fun ⟨_, h⟩ => nomatch h) fun ⟨_, _, h, _⟩ => nomatch h
  | some data =>
    simp only [Option.some.injEq, exists_eq_left']
    split
    · rename_i hstatus
      rw [exists_map_error_iff, and_iff_right hstatus]
      cases h : data.isObject with
      | true =>
        rw [Value.get_of_isObject h]
        exact iff_of_false (fun ⟨_, h⟩ => nomatch h) Bool.false_ne_true.symm
      | false =>
        rw [Value.get_error_of_not_isObject h]
        exact iff_of_true ⟨_, rfl⟩ rfl
    · rename_i hstatus
      exact iff_of_false (fun ⟨_, h⟩ => nomatch h) fun h => hstatus h.1

theorem Email.Posting.concludes : Concludes ofOutcome dump Baffles where
  fails := exists_ofReply_error_iff
  told p := by
    cases p with
    | sent => exact ⟨true, rfl⟩
    | simulated => exact ⟨true, rfl⟩
    | failed => exact ⟨false, rfl⟩
  timedOut _ := ⟨_, rfl, rfl⟩
  broken _ := ⟨_, rfl, rfl⟩

/-! ### Replies of language models -/

namespace Value

/-- Whether a list begins with what can be asked for its parts. -/
def beginsOpen : Value → Bool
  | list (item :: _) => item.isOpen
  | _ => false

/-- Whether the first item of a list can be asked for its parts, no items counting as one without
parts. -/
def isLedOpen (v : Value) : Bool := v.beginsOpen || !v.truthy

theorem exists_first_isOpen_iff (v : Value) :
    (∃ item, v.first = .ok item ∧ item.isOpen = true) ↔ v.beginsOpen = true := by
  cases v with
  | list items =>
    cases items with
    | nil =>
      refine iff_of_false ?_ Bool.false_ne_true
      rintro ⟨item, hitem, -⟩
      cases hitem
    | cons item rest =>
      refine ⟨?_, fun h => ⟨item, rfl, h⟩⟩
      rintro ⟨_, ⟨⟩, h⟩
      exact h
  | str s =>
    -- the first character of a text is a text again, and present
    refine iff_of_false ?_ Bool.false_ne_true
    rintro ⟨item, hitem, hopen⟩
    unfold first at hitem
    simp only at hitem
    split at hitem
    · obtain rfl := Except.ok.inj hitem
      simp [isOpen, isObject, truthy] at hopen
    · cases hitem
  | _ =>
    refine iff_of_false ?_ Bool.false_ne_true
    rintro ⟨item, hitem, -⟩
    cases hitem

/-- A whole number that a double is added to has to be a double too. -/
def Fitting : Int ⊕ Float → Int ⊕ Float → Prop
  | .inl m, .inr _ => m.natAbs < Decimal.leastTooLarge
  | .inr _, .inl n => n.natAbs < Decimal.leastTooLarge
  | _, _ => True

/-- Two values that have a sum: texts, lists, or numbers that fit. -/
def Addable (a b : Value) : Prop :=
  (∃ s t, a = str s ∧ b = str t) ∨ (∃ xs ys, a = list xs ∧ b = list ys) ∨
    ∃ m n, a.number? = some m ∧ b.number? = some n ∧ Fitting m n

theorem exists_doubleOf_iff (n : Int) :
    (∃ x, doubleOf n = .ok x) ↔ n.natAbs < Decimal.leastTooLarge := by
  have hlarge := Decimal.ofInt?_eq_none_iff n
  unfold doubleOf
  cases h : Decimal.ofInt? n with
  | none =>
    exact iff_of_false (fun ⟨_, h⟩ => nomatch h) (Nat.not_lt.mpr (hlarge.mp h))
  | some x =>
    rw [h] at hlarge
    exact iff_of_true ⟨x, rfl⟩ (Nat.not_le.mp fun hle => nomatch hlarge.mpr hle)

theorem exists_addNumbers_iff (m n : Int ⊕ Float) : (∃ w, addNumbers m n = .ok w) ↔ Fitting m n := by
  cases m with
  | inl m =>
    cases n with
    | inl n => exact iff_of_true ⟨_, rfl⟩ trivial
    | inr y =>
      rw [Fitting, ← exists_doubleOf_iff]
      simp only [addNumbers, map_eq_ok_iff]
      exact ⟨fun ⟨_, x, hx, _⟩ => ⟨x, hx⟩, fun ⟨x, hx⟩ => ⟨_, x, hx, rfl⟩⟩
  | inr x =>
    cases n with
    | inl n =>
      rw [Fitting, ← exists_doubleOf_iff]
      simp only [addNumbers, map_eq_ok_iff]
      exact ⟨fun ⟨_, y, hy, _⟩ => ⟨y, hy⟩, fun ⟨y, hy⟩ => ⟨_, y, hy, rfl⟩⟩
    | inr y => exact iff_of_true ⟨_, rfl⟩ trivial

theorem exists_add_iff (a b : Value) : (∃ w, a.add b = .ok w) ↔ Addable a b := by
  unfold add Addable
  split
  · exact iff_of_true ⟨_, rfl⟩ (.inl ⟨_, _, rfl, rfl⟩)
  · exact iff_of_true ⟨_, rfl⟩ (.inr (.inl ⟨_, _, rfl, rfl⟩))
  · rename_i htexts hlists
    rw [or_iff_right fun ⟨s, t, ha, hb⟩ => htexts s t ha hb,
      or_iff_right fun ⟨xs, ys, ha, hb⟩ => hlists xs ys ha hb]
    cases a.number? with
    | none => exact iff_of_false (fun ⟨_, h⟩ => nomatch h) fun ⟨_, _, h, _⟩ => nomatch h
    | some m =>
      cases b.number? with
      | none => exact iff_of_false (fun ⟨_, h⟩ => nomatch h) fun ⟨_, _, _, h, _⟩ => nomatch h
      | some n =>
        rw [exists_addNumbers_iff]
        refine ⟨fun h => ⟨m, n, rfl, rfl, h⟩, ?_⟩
        rintro ⟨_, _, ⟨⟩, ⟨⟩, h⟩
        exact h

end Value

namespace Completion

variable {provider : Provider} {data : Value}

theorem firstAnswer_of_truthy {answers : Value} (h : answers.truthy = true) :
    firstAnswer answers = answers.first.map Value.orObject := by
  unfold firstAnswer Value.orElse
  rw [if_pos h]
  cases answers.first <;> rfl

theorem firstAnswer_of_not_truthy {answers : Value} (h : answers.truthy = false) :
    firstAnswer answers = .ok (.object []) := by
  unfold firstAnswer Value.orElse
  rw [h]
  rfl

/-- The first of several answers is asked for a part. -/
theorem exists_firstAnswer_get_iff {answers w : Value} {name : String} :
    (∃ answer, firstAnswer answers = .ok answer ∧ answer.get name = .ok w) ↔
      answers.isLedOpen = true ∧ w = answers.head.part name := by
  cases ht : answers.truthy with
  | false =>
    have hled : answers.isLedOpen = true := by simp [Value.isLedOpen, ht]
    rw [firstAnswer_of_not_truthy ht, hled, Value.head_of_not_truthy ht]
    constructor
    · rintro ⟨_, ⟨⟩, ⟨⟩⟩
      exact ⟨rfl, rfl⟩
    · rintro ⟨-, rfl⟩
      exact ⟨_, rfl, rfl⟩
  | true =>
    have hled : answers.isLedOpen = answers.beginsOpen := by simp [Value.isLedOpen, ht]
    rw [firstAnswer_of_truthy ht, hled, ← Value.exists_first_isOpen_iff]
    constructor
    · rintro ⟨_, hanswer, hw⟩
      obtain ⟨item, hitem, rfl⟩ := map_eq_ok_iff.mp hanswer
      obtain ⟨hopen, rfl⟩ := Value.orObject_get_eq_ok_iff.mp hw
      exact ⟨⟨item, hitem, hopen⟩, (Value.part_head_of_first hitem name).symm⟩
    · rintro ⟨⟨item, hitem, hopen⟩, rfl⟩
      refine ⟨item.orObject, map_eq_ok_iff.mpr ⟨item, hitem, rfl⟩, ?_⟩
      rw [Value.part_head_of_first hitem]
      exact Value.orObject_get_of_isOpen hopen name

/-- The text of the answer can be found in a reply. -/
def HasText (provider : Provider) (data : Value) : Prop :=
  match provider with
  | .openai => (data.part "choices").isLedOpen = true ∧
    ((data.part "choices").head.part "message").isOpen = true
  | .anthropic => (data.part "content").isLedOpen = true

/-- The number of tokens can be found in a reply, or made of two numbers there. -/
def HasCount (provider : Provider) (data : Value) : Prop :=
  (data.part "usage").isOpen = true ∧
    match provider with
    | .openai => True
    | .anthropic => Value.Addable (((data.part "usage").part "input_tokens").orElse (.int 0))
        (((data.part "usage").part "output_tokens").orElse (.int 0))

/-- A reply has the form that a provider promises, any part of which may be absent. -/
def Follows (provider : Provider) (data : Value) : Prop :=
  data.isObject = true ∧ HasText provider data ∧ HasCount provider data

theorem exists_answerText_iff (hdata : data.isObject = true) :
    (∃ text, answerText provider data = .ok text) ↔ HasText provider data := by
  unfold answerText HasText
  cases provider with
  | openai =>
    simp only [Value.get_of_isObject hdata, bind_eq_ok_iff, Value.orObject_get_eq_ok_iff]
    constructor
    · rintro ⟨text, choices, ⟨⟩, answer, hanswer, message, hmessage, content, ⟨hopen, -⟩, -⟩
      obtain ⟨hled, rfl⟩ := exists_firstAnswer_get_iff.mp ⟨answer, hanswer, hmessage⟩
      exact ⟨hled, hopen⟩
    · rintro ⟨hled, hopen⟩
      obtain ⟨answer, hanswer, hmessage⟩ := exists_firstAnswer_get_iff.mpr ⟨hled, rfl⟩
      exact ⟨_, _, rfl, answer, hanswer, _, hmessage, _, ⟨hopen, rfl⟩, rfl⟩
  | anthropic =>
    simp only [Value.get_of_isObject hdata, bind_eq_ok_iff]
    constructor
    · rintro ⟨text, content, ⟨⟩, answer, hanswer, found, hfound, -⟩
      exact (exists_firstAnswer_get_iff.mp ⟨answer, hanswer, hfound⟩).1
    · intro hled
      obtain ⟨answer, hanswer, hfound⟩ := exists_firstAnswer_get_iff.mpr ⟨hled, rfl⟩
      exact ⟨_, _, rfl, answer, hanswer, _, hfound, rfl⟩

theorem exists_tokenCount_iff (hdata : data.isObject = true) :
    (∃ tokens, tokenCount provider data = .ok tokens) ↔ HasCount provider data := by
  unfold tokenCount HasCount
  cases provider with
  | openai =>
    simp only [Value.get_of_isObject hdata, bind_eq_ok_iff, Value.orObject_get_eq_ok_iff]
    constructor
    · rintro ⟨tokens, usage, ⟨⟩, total, ⟨hopen, -⟩, -⟩
      exact ⟨hopen, trivial⟩
    · rintro ⟨hopen, -⟩
      exact ⟨_, _, rfl, _, ⟨hopen, rfl⟩, rfl⟩
  | anthropic =>
    simp only [Value.get_of_isObject hdata, bind_eq_ok_iff, Value.orObject_get_eq_ok_iff,
      ← Value.exists_add_iff]
    constructor
    · rintro ⟨tokens, usage, ⟨⟩, given, ⟨hopen, rfl⟩, answered, ⟨-, rfl⟩, hsum⟩
      exact ⟨hopen, tokens, hsum⟩
    · rintro ⟨hopen, tokens, hsum⟩
      exact ⟨tokens, _, rfl, _, ⟨hopen, rfl⟩, _, ⟨hopen, rfl⟩, hsum⟩

theorem not_exists_answerText (hdata : data.isObject = false) :
    ¬ ∃ text, answerText provider data = .ok text := by
  unfold answerText
  rintro ⟨text, h⟩
  cases provider <;>
    · obtain ⟨found, hfound, -⟩ := bind_eq_ok_iff.mp h
      rw [Value.get_error_of_not_isObject hdata] at hfound
      cases hfound

/-- What a language model has replied is not in the form that is expected of an answer, or of a
complaint. -/
def Baffles (provider : Provider) (reply : HttpReply) : Prop :=
  ∃ data, Json.parseBytes? reply.body = some data ∧
    if reply.status < 400 then ¬ Follows provider data
    else data.isObject = true ∧ (data.part "error").isOpen = false

theorem exists_complaint_error_iff :
    (∃ e, complaint data = .error e) ↔ data.isObject = true ∧ (data.part "error").isOpen = false := by
  cases data with
  | object fs =>
    have hcomplaint : complaint (.object fs) =
      ((Value.object fs).part "error").orObject.get "message" := rfl
    rw [hcomplaint, exists_error_iff]
    simp [Value.orObject_get_eq_ok_iff]
  | _ => exact iff_of_false (fun ⟨_, h⟩ => nomatch h) fun ⟨h, _⟩ => nomatch h

theorem Completed.exists_ofReply_error_iff (p : Prompt) (reply : HttpReply) :
    (∃ e, ofReply p provider reply = .error e) ↔ Baffles provider reply := by
  unfold ofReply Baffles
  cases Json.parseBytes? reply.body with
  | none => exact iff_of_false (fun ⟨_, h⟩ => nomatch h) fun ⟨_, h, _⟩ => nomatch h
  | some data =>
    simp only [Option.some.injEq, exists_eq_left']
    split
    · rw [exists_error_iff, not_iff_not]
      cases hdata : data.isObject with
      | false =>
        refine iff_of_false ?_ fun h => absurd (hdata.symm.trans h.1) Bool.false_ne_true
        rintro ⟨completed, h⟩
        obtain ⟨text, htext, -⟩ := bind_eq_ok_iff.mp h
        exact not_exists_answerText hdata ⟨text, htext⟩
      | true =>
        unfold Follows
        rw [← exists_answerText_iff hdata, ← exists_tokenCount_iff hdata, and_iff_right hdata]
        constructor
        · rintro ⟨completed, h⟩
          obtain ⟨text, htext, h⟩ := bind_eq_ok_iff.mp h
          obtain ⟨tokens, htokens, -⟩ := bind_eq_ok_iff.mp h
          exact ⟨⟨text, htext⟩, tokens, htokens⟩
        · rintro ⟨⟨text, htext⟩, tokens, htokens⟩
          rw [htext, htokens]
          exact ⟨_, rfl⟩
    · rw [← exists_complaint_error_iff]
      exact exists_return_error_iff

theorem Completed.concludes (p : Prompt) :
    Concludes (ofOutcome p provider) dump (Baffles provider) where
  fails := exists_ofReply_error_iff p
  told c := by
    cases c with
    | answered => exact ⟨true, rfl⟩
    | failed => exact ⟨false, rfl⟩
  timedOut _ := ⟨_, rfl, rfl⟩
  broken _ := ⟨_, rfl, rfl⟩

end Completion

end ChatFlow
