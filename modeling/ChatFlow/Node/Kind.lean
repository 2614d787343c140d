/-!
# Node kinds

What a node does depends on its type alone.  Several types may do the same;
`NodeKind.types` lists all of them with what they do.
-/

namespace ChatFlow

/-- What a node does. -/
inductive NodeKind where
  | trigger
  | message
  | media
  | callToAction
  | template
  | location
  | requestLocation
  | buttons
  | list
  | form
  | waitForReply
  | delay
  | http
  | webhook
  | branch
  | sheet
  | completion
  | email
  | database
  | transform
  | stop
  deriving DecidableEq, Repr

namespace NodeKind

/-- The types of nodes and what nodes of each type do. -/
def types : List (String × NodeKind) :=
  [("on_message", trigger), ("catch_webhook", trigger), ("send_message", message),
   ("message", message), ("send_media", media), ("send_cta", callToAction),
   ("cta_url", callToAction), ("send_template", template), ("template", template),
   ("send_location", location), ("request_location", requestLocation), ("send_button", buttons),
   ("button_message", buttons), ("send_list", list), ("list_message", list), ("send_flow", form),
   ("wait_for_reply", waitForReply), ("delay", delay), ("conditional", branch), ("end", stop),
   ("http", http), ("api", http), ("webhook", webhook), ("google_sheets", sheet),
   ("ai_completion", completion), ("email", email), ("database_query", database),
   ("transform", transform)]

/-- What nodes of a type do; none for a type that nobody knows. -/
def ofType? (type : String) : Option NodeKind := types.lookup type

/-- Whether nodes of this kind wait for a reply; when one of them fails, its path ends. -/
def suspends : NodeKind → Bool
  | buttons | list | form | waitForReply => true
  | _ => false

end NodeKind

end ChatFlow
