import HubPublisher.Hub.Request
import HubPublisher.Proofs.Url.Form

/-!
The URL of a request carries exactly the operation and the topic.

Both stand behind the query of the base URL and are read back from it as they are, whatever
characters they have: nothing in a topic is taken for a separator, and nothing in the base URL,
not even a malformed query, changes how they are read. All else in the URL is the base URL's.
-/
namespace HubPublisher.Hub

open Event (Topic)

/-- The pairs that a request puts behind the query of the base URL. -/
def topicPairs (topic : Topic) (operation : Operation) : List (String × String) :=
  [("hub.mode", operation.name), ("hub.topic", topic.text)]

theorem topicUrl_of_ok {baseUrl : String} {u : Url} (h : Url.parse baseUrl = .ok u) (topic : Topic)
    (operation : Operation) :
    topicUrl topic baseUrl operation = .ok (u.withPairs (topicPairs topic operation)) := by
  rw [topicUrl, h]
  rfl

theorem topicUrl_of_error {baseUrl : String} {e : Url.UrlError} (h : Url.parse baseUrl = .error e)
    (topic : Topic) (operation : Operation) :
    topicUrl topic baseUrl operation = .error (.invalidBaseUrl baseUrl e) := by
  rw [topicUrl, h]

/-- A base URL with a user, a port, a malformed query and a fragment. -/
def oddBaseUrl : String := "hub://u:p@h:8/a b?x=%&&y=+#f"

def oddUrl : Url where
  scheme := "hub"
  authority := some ⟨"u", "p", some (.name "h"), some 8⟩
  path := "/a%20b"
  query := some "x=%&&y=+"
  fragment := some "f"

theorem parse_oddBaseUrl : Url.parse oddBaseUrl = .ok oddUrl := rfl

/-- Where a query ends the authority, a sign for a user with nothing around it has no host. -/
example : topicUrl ⟨"t/e"⟩ "hub://@?q" .publish = .error (.invalidBaseUrl "hub://@?q" .emptyHost) :=
  rfl

end HubPublisher.Hub
