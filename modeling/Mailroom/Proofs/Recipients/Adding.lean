import Mailroom.Command.Invocation
import Mailroom.Proofs.Message.Composition

/-! Recipients that are added one after the other. Whatever shape they are given in, what is added for a role
comes after what was there for it, and the other roles are left alone. -/
namespace Mailroom

/-- An entry belongs to its role only. -/
theorem RecipientTable.entry_setEntry (t : RecipientTable) (role role' : Role)
    (entry : Option RecipientEntry) :
    (t.setEntry role entry).entry role' = if role' = role then entry else t.entry role' := by
  cases role <;> cases role' <;> rfl

namespace Recipients

def addAll (r : Recipients) (added : List (Role × String)) : Recipients :=
  added.foldl (fun r (role, text) => r.add role text) r

/-- The texts among those that are added which are for one role. -/
def textsFor (role : Role) (added : List (Role × String)) : List String :=
  (added.filter (·.1 = role)).map (·.2)

variable {r r' : Recipients} {added added' : List (Role × String)} {role : Role}

/-- Nothing is lost when recipients are put into a table. -/
theorem texts_toTable (r : Recipients) (role : Role) : (table r.toTable).texts role = r.texts role := by
  cases r with
  | one text => cases role <;> rfl
  | list texts => cases texts <;> cases role <;> rfl
  | table t => rfl

/-- A text is added at the end of its role. -/
theorem texts_add (r : Recipients) (role role' : Role) (text : String) :
    (r.add role text).texts role' = r.texts role' ++ if role' = role then [text] else [] := by
  rw [← texts_toTable r]
  simp only [add, texts, RecipientTable.add, RecipientTable.entry_setEntry]
  by_cases hrole : role' = role
  · subst hrole
    cases r.toTable.entry role' with
    | none => simp [RecipientEntry.texts]
    | some entry => simp [RecipientEntry.texts, RecipientEntry.push]
  · simp [hrole]

theorem texts_addAll (r : Recipients) (added : List (Role × String)) (role : Role) :
    (r.addAll added).texts role = r.texts role ++ textsFor role added := by
  induction added generalizing r with
  | nil => simp [addAll, textsFor]
  | cons a added ih =>
    obtain ⟨role', text⟩ := a
    have hadd : (r.addAll ((role', text) :: added)).texts role =
        (r.add role' text).texts role ++ textsFor role added := ih (r.add role' text)
    rw [hadd, texts_add, List.append_assoc]
    by_cases hrole : role' = role
    · simp [textsFor, hrole]
    · simp [textsFor, hrole, Ne.symm hrole]

theorem addresses_addAll (r : Recipients) (added : List (Role × String)) (role : Role) :
    (r.addAll added).addresses role =
      r.addresses role ++ ((textsFor role added).map Text.trim).filter (· ≠ "") := by
  simp only [addresses_eq, texts_addAll, List.map_append, List.filter_append]

/-- Texts for different roles do not get into each other's way. -/
theorem textsFor_swap {before after : List (Role × String)} {a b : Role × String} (h : a.1 ≠ b.1)
    (role : Role) :
    textsFor role (before ++ b :: a :: after) = textsFor role (before ++ a :: b :: after) := by
  by_cases ha : a.1 = role
  · have hb : b.1 ≠ role := fun hb => h (ha.trans hb.symm)
    simp [textsFor, ha, hb]
  · simp [textsFor, List.filter_cons, ha]

end Recipients

namespace Command.SendRequest

open Recipients (addAll textsFor)

def added (request : SendRequest) : List (Role × String) :=
  Role.all.flatMap fun role => (request.texts role).map (role, ·)

private theorem recipients_eq_addAll (request : SendRequest) :
    request.recipients = (Recipients.table {}).addAll request.added := by
  simp only [recipients, addAll, added, List.foldl_flatMap, List.foldl_map]

private theorem textsFor_added (request : SendRequest) (role : Role) :
    textsFor role request.added = request.texts role := by
  cases role <;> simp [textsFor, added, Role.all, List.filter_map, Function.comp_def]

theorem addresses_recipients (request : SendRequest) (role : Role) :
    request.recipients.addresses role = ((request.texts role).map Text.trim).filter (· ≠ "") := by
  have hnone : (Recipients.table {}).addresses role = [] := by cases role <;> rfl
  rw [recipients_eq_addAll, Recipients.addresses_addAll, textsFor_added, hnone, List.nil_append]

end Command.SendRequest

/-- A message is composed of the addresses in each role, and the shape in which they are given is forgotten. -/
theorem Message.compose_congr {r r' : Recipients} (h : ∀ role, r'.addresses role = r.addresses role)
    (sender subject text : String) (format : BodyFormat) :
    compose sender r' subject text format = compose sender r subject text format := by
  simp only [compose, h]

namespace Recipients

/-- Each role keeps its addresses, and those that are added for it follow in turn, so that texts for different
roles can be added in either order. A request has the addresses that it gives for each role. Recipients with
the same addresses in all roles make the same message, or fail alike. -/
theorem addresses_are_appended (r : Recipients) (added : List (Role × String)) :
    (∀ role, (r.addAll added).addresses role =
        r.addresses role ++ ((textsFor role added).map Text.trim).filter (· ≠ "")) ∧
      (∀ before a b after, added = before ++ a :: b :: after → a.1 ≠ b.1 →
        ∀ role, (r.addAll (before ++ b :: a :: after)).addresses role = (r.addAll added).addresses role) ∧
      (∀ (request : Command.SendRequest) role,
        request.recipients.addresses role = ((request.texts role).map Text.trim).filter (· ≠ "")) ∧
      ∀ r' : Recipients, (∀ role, r'.addresses role = r.addresses role) →
        ∀ sender subject text format,
          Message.compose sender r' subject text format = Message.compose sender r subject text format := by
  refine ⟨addresses_addAll r added, ?_, Command.SendRequest.addresses_recipients,
    fun r' => Message.compose_congr⟩
  rintro before a b after rfl hne role
  rw [addresses_addAll, addresses_addAll, textsFor_swap hne]

def shortList : Recipients := .list [" ", " a@example.com"]

def laterTexts : List (Role × String) := [(.bcc, " "), (.primary, "b@example.com "), (.bcc, "c@example.com")]

theorem laterTexts_are_appended :
    (shortList.addAll laterTexts).addresses .primary = ["a@example.com", "b@example.com"] ∧
      (shortList.addAll laterTexts).addresses .bcc = ["c@example.com"] ∧
      (∀ role, (shortList.addAll [(.primary, "b@example.com "), (.bcc, " "),
        (.bcc, "c@example.com")]).addresses role = (shortList.addAll laterTexts).addresses role) ∧
      Message.compose "me@example.com" (.one "a@example.com") "Hi" "Body" .plain =
        Message.compose "me@example.com" shortList "Hi" "Body" .plain := by
  have ⟨hadded, hswap, _, hcompose⟩ := addresses_are_appended shortList laterTexts
  refine ⟨?_, ?_, hswap [] _ _ _ rfl (by decide), hcompose _ ?_ _ _ _ _⟩
  · rw [hadded]
    decide +kernel
  · rw [hadded]
    decide +kernel
  · intro role
    cases role <;> decide +kernel

end Recipients

end Mailroom
