import HubPublisher.Text.Blank

/-!
Correlation ids: the text that links a hub request to its answer and to the records about it.
-/
namespace HubPublisher.Event

/-- The text sent with a hub request and written to every record about it. -/
structure CorrelationId where
  text : String
  deriving DecidableEq, Repr

/-- An id that is given and not blank is used as it stands; otherwise the fresh one is. -/
def CorrelationId.reuseOr (fresh : CorrelationId) : Option CorrelationId → CorrelationId
  | some id => if Text.isBlank id.text then fresh else id
  | none => fresh

/-- Whether the given id is the one that is used. -/
def CorrelationId.isReused : Option CorrelationId → Bool
  | some id => !Text.isBlank id.text
  | none => false

theorem CorrelationId.reuseOr_of_isReused {fresh id : CorrelationId}
    (h : isReused (some id) = true) : reuseOr fresh (some id) = id := by
  simp only [isReused, Bool.not_eq_true'] at h
  simp [reuseOr, h]

end HubPublisher.Event
