/-!
What the hub can be asked to do.
-/
namespace HubPublisher.Hub

inductive Operation where
  | publish
  | register
  | deregister
  deriving DecidableEq, Repr

/-- The name of an operation in a request and in messages. -/
def Operation.name : Operation → String
  | publish => "publish"
  | register => "register"
  | deregister => "deregister"

theorem Operation.name_inj {a b : Operation} : a.name = b.name ↔ a = b := by
  cases a <;> cases b <;> decide

end HubPublisher.Hub
