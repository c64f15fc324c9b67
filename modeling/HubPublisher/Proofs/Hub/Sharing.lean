import HubPublisher.Proofs.Hub.TopicUrl

/-!
Who shares a topic, and who shares a URL.

A topic is a plain join at a slash, and so it does not tell where the tenant ends: two contexts have
one topic just when one tenant goes on behind a slash with what the other event URI begins with
(`Topic.of_eq_of_iff`). Nothing is added to that on the way to the hub. The pairs behind the query of
the base URL are read back as they were put there, so requests have one URL just when they have one
operation and one topic (`one_url_iff_one_topic`). Tenants without a slash are apart.
-/
namespace HubPublisher.Event

/-- Two joins at a separator are the same if they are cut at the same place, or one of them is cut
at a later separator. -/
theorem append_cons_eq_iff {α : Type} {sep : α} {a b c d : List α} :
    a ++ sep :: b = c ++ sep :: d ↔
      (a = c ∧ b = d) ∨ (∃ m, c = a ++ sep :: m ∧ b = m ++ sep :: d) ∨
        ∃ m, a = c ++ sep :: m ∧ d = m ++ sep :: b := by
  constructor
  · intro same
    rcases List.append_eq_append_iff.1 same with ⟨more, hc, hb⟩ | ⟨more, ha, hd⟩
    · cases more with
      | nil => exact .inl ⟨by simpa using hc.symm, by simpa using hb⟩
      | cons s m =>
        obtain ⟨rfl, rest⟩ := List.cons.inj hb
        exact .inr (.inl ⟨m, hc, rest⟩)
    · cases more with
      | nil => exact .inl ⟨by simpa using ha, by simpa using hd.symm⟩
      | cons s m =>
        obtain ⟨rfl, rest⟩ := List.cons.inj hd
        exact .inr (.inr ⟨m, ha, rest⟩)
  · rintro (⟨rfl, rfl⟩ | ⟨m, rfl, rfl⟩ | ⟨m, rfl, rfl⟩)
    · rfl
    · simp
    · simp

theorem toList_join (t e : String) : (t ++ "/" ++ e).toList = t.toList ++ '/' :: e.toList := by
  simp

theorem eq_join_iff {s t e : String} :
    s = t ++ "/" ++ e ↔ s.toList = t.toList ++ '/' :: e.toList := by
  rw [← toList_join, String.toList_inj]

/-- Every row of characters is that of a text. -/
theorem exists_text_iff {p : List Char → Prop} : (∃ m : String, p m.toList) ↔ ∃ m, p m := by
  constructor
  · rintro ⟨m, h⟩
    exact ⟨m.toList, h⟩
  · rintro ⟨m, h⟩
    exact ⟨String.ofList m, by simpa using h⟩

/-- Contexts have one topic just when they are the same or one tenant is the other with a slash and
some text behind it, and that text and a slash are what the other event URI has before its own. -/
theorem Topic.of_eq_of_iff {t₁ t₂ e₁ e₂ : String} :
    Topic.of t₁ e₁ = Topic.of t₂ e₂ ↔
      (t₁ = t₂ ∧ e₁ = e₂) ∨ (∃ m, t₂ = t₁ ++ "/" ++ m ∧ e₁ = m ++ "/" ++ e₂) ∨
        ∃ m, t₁ = t₂ ++ "/" ++ m ∧ e₂ = m ++ "/" ++ e₁ := by
  rw [Topic.of, Topic.of, Topic.mk.injEq, ← String.toList_inj, toList_join, toList_join,
    append_cons_eq_iff, String.toList_inj, String.toList_inj]
  -- what goes on behind the slash is a text, so it does not matter that characters were compared
  simp only [eq_join_iff]
  rw [exists_text_iff (p := fun m => t₂.toList = t₁.toList ++ '/' :: m ∧
      e₁.toList = m ++ '/' :: e₂.toList),
    exists_text_iff (p := fun m => t₁.toList = t₂.toList ++ '/' :: m ∧
      e₂.toList = m ++ '/' :: e₁.toList)]

/-- The topic of a tenant without a slash is shared by no other such tenant. -/
theorem Topic.of_ne_of {t₁ t₂ : String} (other : t₁ ≠ t₂) (whole₁ : '/' ∉ t₁.toList)
    (whole₂ : '/' ∉ t₂.toList) (e₁ e₂ : String) : Topic.of t₁ e₁ ≠ Topic.of t₂ e₂ := by
  intro same
  rcases Topic.of_eq_of_iff.1 same with ⟨one, -⟩ | ⟨m, longer, -⟩ | ⟨m, longer, -⟩
  · exact other one
  · exact whole₂ (by simp [longer])
  · exact whole₁ (by simp [longer])

end HubPublisher.Event

namespace HubPublisher.Url

/-- Different pairs behind a query make different URLs, as they are read back from it. -/
theorem withPairs_inj {u : Url} {ps qs : List (String × String)} :
    u.withPairs ps = u.withPairs qs ↔ ps = qs := by
  constructor
  · intro same
    have pairs := congrArg queryPairs same
    rw [queryPairs_withPairs, queryPairs_withPairs] at pairs
    exact List.append_cancel_left pairs
  · rintro rfl
    rfl

/-- All that pairs behind the query leave as it is stands around the query in the text. -/
theorem write_withPairs (u : Url) (ps : List (String × String)) :
    (u.withPairs ps).write = u.scheme ++ ":" ++ u.writeAuthority ++ u.path
      ++ ("?" ++ appendPairs (u.query.getD "") ps) ++ u.writeFragment := rfl

/-- So their texts are different too. -/
theorem write_withPairs_inj {u : Url} {ps qs : List (String × String)} :
    (u.withPairs ps).write = (u.withPairs qs).write ↔ ps = qs := by
  constructor
  · intro same
    rw [write_withPairs, write_withPairs, String.append_left_inj, String.append_right_inj,
      String.append_right_inj] at same
    exact withPairs_inj.1 (congrArg (fun q => { u with query := some q }) same)
  · rintro rfl
    rfl

end HubPublisher.Url

namespace HubPublisher.Hub

open Event (Topic)

theorem topicPairs_inj {topic topic' : Topic} {o o' : Operation} :
    topicPairs topic o = topicPairs topic' o' ↔ o = o' ∧ topic = topic' := by
  cases topic
  cases topic'
  simp [topicPairs, Operation.name_inj]

/-- On one base URL, requests for two contexts have the same URL, and the same text of it, just when
they have the same operation and the same topic; and the contexts have the same topic just when they
are the same or the slash between tenant and event URI is another one of those in it. Tenants
without a slash never have a topic or a URL in common. -/
theorem one_url_iff_one_topic {baseUrl : String} {u : Url} (parsed : Url.parse baseUrl = .ok u)
    (t₁ t₂ e₁ e₂ : String) (o₁ o₂ : Operation) :
    ∃ u₁ u₂, topicUrl (Topic.of t₁ e₁) baseUrl o₁ = .ok u₁ ∧
      topicUrl (Topic.of t₂ e₂) baseUrl o₂ = .ok u₂ ∧
      (u₁ = u₂ ↔ o₁ = o₂ ∧ Topic.of t₁ e₁ = Topic.of t₂ e₂) ∧
      (u₁.write = u₂.write ↔ o₁ = o₂ ∧ Topic.of t₁ e₁ = Topic.of t₂ e₂) ∧
      (Topic.of t₁ e₁ = Topic.of t₂ e₂ ↔
        (t₁ = t₂ ∧ e₁ = e₂) ∨ (∃ m, t₂ = t₁ ++ "/" ++ m ∧ e₁ = m ++ "/" ++ e₂) ∨
          ∃ m, t₁ = t₂ ++ "/" ++ m ∧ e₂ = m ++ "/" ++ e₁) ∧
      (t₁ ≠ t₂ → '/' ∉ t₁.toList → '/' ∉ t₂.toList →
        Topic.of t₁ e₁ ≠ Topic.of t₂ e₂ ∧ u₁ ≠ u₂ ∧ u₁.write ≠ u₂.write) := by
  have urls : u.withPairs (topicPairs (Topic.of t₁ e₁) o₁)
      = u.withPairs (topicPairs (Topic.of t₂ e₂) o₂) ↔
      o₁ = o₂ ∧ Topic.of t₁ e₁ = Topic.of t₂ e₂ := by
    rw [Url.withPairs_inj, topicPairs_inj]
  have texts : (u.withPairs (topicPairs (Topic.of t₁ e₁) o₁)).write
      = (u.withPairs (topicPairs (Topic.of t₂ e₂) o₂)).write ↔
      o₁ = o₂ ∧ Topic.of t₁ e₁ = Topic.of t₂ e₂ := by
    rw [Url.write_withPairs_inj, topicPairs_inj]
  refine ⟨_, _, topicUrl_of_ok parsed _ o₁, topicUrl_of_ok parsed _ o₂, urls, texts,
    Topic.of_eq_of_iff, ?_⟩
  intro other whole₁ whole₂
  have apart := Topic.of_ne_of other whole₁ whole₂ e₁ e₂
  refine ⟨apart, ?_, ?_⟩
  · intro same
    exact apart (urls.1 same).2
  · intro same
    exact apart (texts.1 same).2

/-- A tenant with a slash shares its URL with the tenant before the slash; two tenants without one
have URLs of their own, although their topics differ in the place of a slash alone. -/
theorem one_url_iff_one_topic_sample :
    Url.parse oddBaseUrl = .ok oddUrl ∧
    (∃ v, topicUrl (Topic.of "a/b" "c") oddBaseUrl .publish = .ok v ∧
      topicUrl (Topic.of "a" "b/c") oddBaseUrl .publish = .ok v) ∧
    ∃ v₁ v₂, topicUrl (Topic.of "a" "b/c") oddBaseUrl .publish = .ok v₁ ∧
      topicUrl (Topic.of "ab" "/c") oddBaseUrl .publish = .ok v₂ ∧ v₁.write ≠ v₂.write := by
  obtain ⟨v₁, v₂, first, second, shared, -, -, -⟩ :=
    one_url_iff_one_topic parse_oddBaseUrl "a/b" "a" "c" "b/c" .publish .publish
  obtain ⟨w₁, w₂, third, fourth, -, -, -, apart⟩ :=
    one_url_iff_one_topic parse_oddBaseUrl "a" "ab" "b/c" "/c" .publish .publish
  have same : v₁ = v₂ := shared.2 ⟨rfl, by decide⟩
  exact ⟨parse_oddBaseUrl, ⟨v₁, first, same ▸ second⟩, w₁, w₂, third, fourth,
    (apart (by decide) (by decide) (by decide)).2.2⟩

end HubPublisher.Hub
