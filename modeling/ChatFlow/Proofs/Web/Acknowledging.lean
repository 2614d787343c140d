import ChatFlow.Proofs.Engine.Course
import ChatFlow.Proofs.Inbound.Delivery
import ChatFlow.Web.Site

/-!
# Deliveries are acknowledged

The messaging service wants every delivery acknowledged at once, whether there is a
message in it or not.  It is, unless the delivery is one that cannot be read; then
the request fails (`deliveries_acknowledged`).  Either way nothing has happened to the
state when the answer goes out.
-/

namespace ChatFlow.Web

/-- An answer that acknowledges a delivery, whatever is left to do in the background. -/
def Reply.Acknowledges (reply : Reply) : Prop :=
  reply.status = 200 ∧ reply.body = .json (.object [("success", .bool true)])

/-- The body of a request is no JSON, or a delivery that can be read. -/
def Request.Legible (r : Request) : Prop :=
  ∀ payload, Json.parseBytes? r.body = some payload → Message.Legible payload

variable {site : Site} {service : Service} {world : World} {s : EngineState} {asked : List Query}
  {r : Request}

theorem acknowledges_acknowledged : acknowledged.Acknowledges := ⟨rfl, rfl⟩

/-- A delivery that can be read is acknowledged. -/
theorem deliver_of_legible (hengine : site.engine = some service) (h : r.Legible) :
    ∃ reply, (site.deliver r.body).run.run world s asked = ⟨s, asked, .inr (.ok reply)⟩ ∧
      reply.Acknowledges := by
  unfold Site.deliver
  cases hbody : Json.parseBytes? r.body with
  | none => exact ⟨_, rfl, acknowledges_acknowledged⟩
  | some payload =>
    obtain ⟨m, hm⟩ := Message.exists_ofPayload_iff.mpr (h payload hbody)
    simp only [hm]
    cases m with
    | none => exact ⟨_, rfl, acknowledges_acknowledged⟩
    | some m =>
      simp only [Site.withEngine, hengine]
      exact ⟨_, rfl, rfl, rfl⟩

/-- A delivery that cannot be read fails. -/
theorem deliver_of_not_legible (h : ¬ r.Legible) :
    ∃ failure, (site.deliver r.body).run.run world s asked = ⟨s, asked, .inr (.error failure)⟩ := by
  unfold Request.Legible at h
  simp only [Classical.not_forall] at h
  obtain ⟨payload, hbody, hpayload⟩ := h
  rw [← Message.exists_ofPayload_iff, ← exists_error_iff] at hpayload
  obtain ⟨e, he⟩ := hpayload
  unfold Site.deliver
  simp only [hbody, he]
  exact ⟨e, rfl⟩

theorem answer_of_delivery (hroute : Route.of r.method r.path = .delivery) :
    site.answer r = site.deliver r.body := by
  rw [Site.answer, hroute]

/-- A delivery comes to a message or to none if it is legible, and only then.  A request with one is
acknowledged, as is one without; a request with any other fails. -/
theorem deliveries_acknowledged (payload : Value) (loaded : Settings.Loaded) (service : Service)
    (world : World) (s : EngineState) (asked : List Query) {r : Request}
    (hroute : Route.of r.method r.path = .delivery) :
    ((∃ m, Message.ofPayload payload = .ok m) ↔ Message.Legible payload) ∧
    (r.Legible → ∃ reply, ((Site.mk loaded (some service)).answer r).run.run world s asked =
      ⟨s, asked, .inr (.ok reply)⟩ ∧ reply.Acknowledges) ∧
    (¬ r.Legible → ∃ failure, ((Site.mk loaded (some service)).answer r).run.run world s asked =
      ⟨s, asked, .inr (.error failure)⟩) := by
  rw [answer_of_delivery hroute]
  exact ⟨Message.exists_ofPayload_iff, deliver_of_legible rfl, deliver_of_not_legible⟩

/-- The service with an engine that knows nothing else. -/
def Site.alone : Site := ⟨⟨Settings.defaults, false⟩, some .alone⟩

/-- A request to take a delivery. -/
def delivering (body : String) : Request where
  method := "POST"
  path := "/api/whatsapp-webhook"
  query := ""
  headers := []
  body := body

/-- A delivery of a text message whose text is no object. -/
def hiBody : String :=
  "\x7b\"entry\": [\x7b\"changes\": [\x7b\"value\": \x7b\"messages\": " ++
    "[\x7b\"from\": \"1\", \"type\": \"text\", \"text\": \"hi\"\x7d]\x7d\x7d]\x7d]\x7d"

theorem route_delivering (body : String) :
    Route.of (delivering body).method (delivering body).path = .delivery := by
  have hsplit : Text.splitAt '/' (delivering body).path = ["", "api", "whatsapp-webhook"] :=
    (by decide +kernel :
      Text.splitAt '/' "/api/whatsapp-webhook" = ["", "api", "whatsapp-webhook"])
  rw [Route.of, hsplit]
  rfl

theorem exists_hiPayload : ∃ payload, Json.parseBytes? hiBody = some payload ∧
    ¬ ∃ m, Message.ofPayload payload = .ok m := by
  have hread : (Json.parseBytes? hiBody).map (fun p => (Message.ofPayload p).toBool) = some false := by
    decide +kernel
  obtain ⟨payload, hbody, hpayload⟩ := Option.map_eq_some_iff.mp hread
  refine ⟨payload, hbody, ?_⟩
  rintro ⟨m, hm⟩
  rw [hm] at hpayload
  cases hpayload

theorem hi_not_legible : ¬ (delivering hiBody).Legible := by
  obtain ⟨payload, hbody, hpayload⟩ := exists_hiPayload
  exact fun h => hpayload (Message.exists_ofPayload_iff.mpr (h payload hbody))

/-- A request without a body is acknowledged, and one with that delivery fails. -/
theorem deliveries_acknowledged_alone :
    (∃ reply, (Site.alone.answer (delivering "")).run.run .silent .waiting [] =
      ⟨.waiting, [], .inr (.ok reply)⟩ ∧ reply.Acknowledges) ∧
    ∃ failure, (Site.alone.answer (delivering hiBody)).run.run .silent .waiting [] =
      ⟨.waiting, [], .inr (.error failure)⟩ := by
  have hempty : (delivering "").Legible := fun payload h => by
    have hnone : (Json.parseBytes? "").isNone = true := by decide +kernel
    rw [show Json.parseBytes? "" = some payload from h] at hnone
    cases hnone
  constructor
  · exact (deliveries_acknowledged .null ⟨Settings.defaults, false⟩ .alone .silent .waiting []
      (route_delivering "")).2.1 hempty
  · exact (deliveries_acknowledged .null ⟨Settings.defaults, false⟩ .alone .silent .waiting []
      (route_delivering hiBody)).2.2 hi_not_legible

/-- The delivery is JSON and still comes neither to a message nor to none, and the request that
brings it is not acknowledged. -/
theorem hi_unacknowledged :
    (∃ payload, Json.parseBytes? hiBody = some payload ∧ ¬ ∃ m, Message.ofPayload payload = .ok m) ∧
    ∃ failure, (Site.alone.answer (delivering hiBody)).run.run .silent .waiting [] =
      ⟨.waiting, [], .inr (.error failure)⟩ := by
  refine ⟨exists_hiPayload, ?_⟩
  rw [answer_of_delivery (route_delivering hiBody)]
  exact deliver_of_not_legible hi_not_legible

end ChatFlow.Web
