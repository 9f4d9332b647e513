import Mailroom.Proofs.Client
import Mailroom.Proofs.Properties.Secrets
import Mailroom.Smtp.Transport

/-! What is shown of options, of their bags and of their clients: nothing of the password, and nothing of
the properties that are kept secret. -/
namespace Mailroom.Options

open PropertyBag

/-- The options differ at most in the password, which both have or neither has, and in secrets among the
properties that are not read. -/
structure SameButSecrets (o o' : Options) : Prop where
  protocol : o'.protocol = o.protocol
  host : o'.host = o.host
  port : o'.port = o.port
  starttls : o'.starttls = o.starttls
  auth : o'.auth = o.auth
  user : o'.user = o.user
  password : o'.password.isSome = o.password.isSome
  timeout : o'.timeout = o.timeout
  extra : o.extra.SameButSecrets o'.extra

variable {o o' : Options}

/-- The password is covered before it is shown. -/
theorem shown_password_eq (h : o'.password.isSome = o.password.isSome) :
    Text.Shown.option (fun _ => .string "***") o'.password = .option (fun _ => .string "***") o.password := by
  cases hp : o.password <;> cases hp' : o'.password <;> simp_all [Text.Shown.option]

theorem SameButSecrets.shown_eq (h : o.SameButSecrets o') : o'.shown = o.shown := by
  simp only [shown, h.protocol, h.host, h.port, h.starttls, h.auth, h.user, h.timeout, h.extra.shown_eq,
    shown_password_eq h.password]

private theorem namesSecret_passwordKey : NamesSecret (Text.trim passwordKey) := by
  rw [← isSecret_iff]
  decide +kernel

/-- The options set the same properties to the same values, but for the password. -/
theorem SameButSecrets.settings (h : o.SameButSecrets o') :
    List.Forall₂ AgreesButSecret o.settings o'.settings := by
  have hrefl (settings : List (String × String)) : List.Forall₂ AgreesButSecret settings settings :=
    List.forall₂_same.2 fun _ _ => ⟨rfl, .inl rfl⟩
  have hpassword : List.Forall₂ AgreesButSecret (o.password.map (passwordKey, ·)).toList
      (o'.password.map (passwordKey, ·)).toList := by
    have hsome := h.password
    cases hp : o.password with
    | none =>
      obtain hp' : o'.password = none := by simpa [hp] using hsome
      rw [hp']
      exact .nil
    | some password =>
      obtain ⟨password', hp'⟩ : ∃ p, o'.password = some p := by
        simpa [hp, Option.isSome_iff_exists] using hsome
      rw [hp']
      exact .cons ⟨rfl, .inr namesSecret_passwordKey⟩ .nil
  simp only [Options.settings, h.protocol, h.host, h.port, h.starttls, h.auth, h.user, h.timeout]
  exact List.rel_append (hrefl _) hpassword

/-- The bags of options that differ at most in secrets differ at most in secrets. -/
theorem SameButSecrets.toBag (h : o.SameButSecrets o') : o.toBag.SameButSecrets o'.toBag :=
  h.extra.foldl h.settings

/-- A client shows its options, and the address in them. -/
theorem SameButSecrets.shownClient_eq (h : o.SameButSecrets o') :
    Smtp.shownClient o' = Smtp.shownClient o := by
  simp only [Smtp.shownClient, h.shown_eq, h.host, h.port]

private theorem options_of_client {caller : Smtp.Caller} {c : Client Smtp.Network}
    (h : Smtp.client o caller = .ok c) : c.options = o := by
  rw [(Client.create_eq_ok_iff.1 h).2]

/-- Secrets are not shown: bags that differ at most in secrets look alike, and so do options, the bags that
stand for them and the clients that are made of them. -/
theorem secrets_are_covered :
    (∀ bag bag' : PropertyBag, bag.SameButSecrets bag' → bag.shown.Alike bag'.shown) ∧
      ∀ o o' : Options, o.SameButSecrets o' →
        o.shown.Alike o'.shown ∧ o.toBag.shown.Alike o'.toBag.shown ∧
          ∀ caller caller' c c', Smtp.client o caller = .ok c → Smtp.client o' caller' = .ok c' →
            (Smtp.shownClient c.options).Alike (Smtp.shownClient c'.options) := by
  refine ⟨fun bag bag' h => .of_eq h.shown_eq, fun o o' h => ⟨.of_eq h.shown_eq, .of_eq h.toBag.shown_eq, ?_⟩⟩
  intro caller caller' c c' hc hc'
  rw [options_of_client hc, options_of_client hc']
  exact .of_eq h.shownClient_eq

def guarded (password token : String) : Options where
  protocol := .smtps
  host := "mail.example.com"
  port := 465
  starttls := false
  auth := true
  user := some "me"
  password := some password
  timeout := defaultTimeout
  extra := .ofPairs [("app.secret", token)]

private theorem guarded_sameButSecrets (password token password' token' : String) :
    (guarded password token).SameButSecrets (guarded password' token') := by
  refine ⟨rfl, rfl, rfl, rfl, rfl, rfl, rfl, rfl, SameButSecrets.foldl ?_ ⟨fun _ => rfl, fun _ _ => rfl⟩⟩
  have hsecret : NamesSecret (Text.trim "app.secret") := by
    rw [← isSecret_iff]
    decide +kernel
  exact .cons ⟨rfl, .inr hsecret⟩ .nil

/-- Two logins look alike in the options, in their bags and in the clients that are made of them. -/
theorem guarded_is_covered :
    (guarded "open sesame" "1").extra.shown.Alike (guarded "*" "2\n").extra.shown ∧
      (guarded "open sesame" "1").shown.Alike (guarded "*" "2\n").shown ∧
      (guarded "open sesame" "1").toBag.shown.Alike (guarded "*" "2\n").toBag.shown ∧
      ∃ c c', Smtp.client (guarded "open sesame" "1") ⟨"client", ""⟩ = .ok c ∧
        Smtp.client (guarded "*" "2\n") ⟨"client", ""⟩ = .ok c' ∧
        (Smtp.shownClient c.options).Alike (Smtp.shownClient c'.options) := by
  have hsame := guarded_sameButSecrets "open sesame" "1" "*" "2\n"
  have hextra := secrets_are_covered.1 _ _ hsame.extra
  obtain ⟨hoptions, hbags, hclients⟩ := secrets_are_covered.2 _ _ hsame
  have hc : Smtp.client (guarded "open sesame" "1") ⟨"client", ""⟩ = .ok ⟨_, _⟩ :=
    Client.create_eq_ok_iff.2 ⟨by decide +kernel, rfl⟩
  have hc' : Smtp.client (guarded "*" "2\n") ⟨"client", ""⟩ = .ok ⟨_, _⟩ :=
    Client.create_eq_ok_iff.2 ⟨by decide +kernel, rfl⟩
  exact ⟨hextra, hoptions, hbags, _, _, hc, hc', hclients _ _ _ _ hc hc'⟩

end Mailroom.Options
