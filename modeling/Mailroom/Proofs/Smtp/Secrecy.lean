import Mailroom.Proofs.Message.Composition
import Mailroom.Proofs.Smtp.Verdict

/-! What a conversation shows of blind copies. Two messages that differ only in them are handed over with
the same content after the same opening; besides the recipients themselves, only the mark of addresses
beyond ASCII can tell them apart. -/
namespace Mailroom

/-- The messages differ at most in who gets a blind copy. -/
def Message.SameButBcc (m m' : Message) : Prop := m' = { m with bcc := m'.bcc }

namespace Mime

/-- Blind copies are not written down. -/
theorem contentOf_of_sameButBcc {m m' : Message} (h : m.SameButBcc m') (date : String) :
    contentOf m' date = contentOf m date := by
  rw [h]
  rfl

private theorem recipients_of_envelopeRecipients {m : Message} {as : List Address}
    (h : envelopeRecipients m = .ok as) :
    as = envelopeAddresses (headerAddresses m.primary) ++ envelopeAddresses (headerAddresses m.cc) ++
      envelopeAddresses (headerAddresses m.bcc) := by
  unfold envelopeRecipients at h
  split at h
  · cases h
  · cases h
    simp [Role.all, Message.recipients]

/-- Letters with one sender and one content, and with the same recipients but for the hidden ones, which
come last. -/
structure SameButHidden (hidden hidden' : List Address) (letter letter' : Letter) : Prop where
  sender : letter'.sender = letter.sender
  content : letter'.content = letter.content
  recipients : ∃ shared, letter.recipients = shared ++ hidden ∧ letter'.recipients = shared ++ hidden'

/-- Messages that differ in blind copies are written down alike. -/
theorem sameButHidden_of_sameButBcc {m m' : Message} {date : String} {letter letter' : Letter}
    (h : m.SameButBcc m') (hletter : Letter.ofMessage m date = .ok letter)
    (hletter' : Letter.ofMessage m' date = .ok letter') :
    SameButHidden (envelopeAddresses (headerAddresses m.bcc))
      (envelopeAddresses (headerAddresses m'.bcc)) letter letter' := by
  obtain ⟨hsender, hrecipients, hcontent⟩ := ofMessage_eq_ok_iff.1 hletter
  obtain ⟨hsender', hrecipients', hcontent'⟩ := ofMessage_eq_ok_iff.1 hletter'
  constructor
  · have hmailbox : m'.sender = m.sender := by rw [h]
    rw [hmailbox, hsender] at hsender'
    exact (Except.ok.inj hsender').symm
  · rw [hcontent, hcontent', contentOf_of_sameButBcc h]
  · have hprimary : m'.primary = m.primary := by rw [h]
    have hcc : m'.cc = m.cc := by rw [h]
    refine ⟨_, recipients_of_envelopeRecipients hrecipients, ?_⟩
    rw [recipients_of_envelopeRecipients hrecipients', hprimary, hcc]

end Mime

namespace Smtp

/-! ### One opening for all letters -/

/-- The commands are those of a plan, or a beginning of it if that fails, and then at most a farewell. -/
def CarriesOut {ε : Type} (plan cs : List Command) (r : Except ε Unit) : Prop :=
  ∃ us vs, cs = us ++ vs ∧ us <+: plan ∧ (r = .ok () → us = plan) ∧ (vs = [] ∨ vs = [.quit])

section
variable {plan cs : List Command} {ε : Type} {r : Except ε Unit}

private theorem carriesOut_nil (plan : List Command) (e : ε) :
    CarriesOut plan [] (.error e : Except ε Unit) :=
  ⟨[], [], rfl, List.nil_prefix, nofun, .inl rfl⟩

theorem CarriesOut.mapError {ε' : Type} (h : CarriesOut plan cs r) (f : ε → ε') :
    CarriesOut plan cs (r.mapError f) := by
  obtain ⟨us, vs, hcs, hus, hall, hvs⟩ := h
  exact ⟨us, vs, hcs, hus, fun hok => hall (mapError_eq_ok_iff.1 hok), hvs⟩

/-- What is left of the commands carries out what is left of the plan. -/
theorem CarriesOut.filterMap {view : Command → Option Command} (h : CarriesOut plan cs r)
    (hquit : view .quit = some .quit) : CarriesOut (plan.filterMap view) (cs.filterMap view) r := by
  obtain ⟨us, vs, rfl, hus, hall, hvs⟩ := h
  have hfarewell : vs.filterMap view = vs := by
    rcases hvs with rfl | rfl
    · rfl
    · simp [hquit]
  refine ⟨us.filterMap view, vs, ?_, hus.filterMap view, fun hok => by rw [hall hok], hvs⟩
  rw [List.filterMap_append, hfarewell]

private theorem Closes.carriesOut {ts : List Turn} {r : Except Fault Unit} (h : Closes plan ts r) :
    CarriesOut plan (ts.map Turn.command) r := by
  obtain ⟨us, vs, rfl, hfollows, hvs⟩ := h
  refine ⟨us.map Turn.command, vs.map Turn.command, List.map_append, hfollows.ahead,
    hfollows.complete (), ?_⟩
  rcases hvs with rfl | ⟨x, rfl⟩
  · exact .inl rfl
  · exact .inr rfl

end

/-- What comes before the letter does not depend on the letter, and hands over nothing. -/
private theorem exists_opening (o : Options) (caller : Caller) (net : Network) :
    ∃ opening, (∀ k ∈ opening, isHandOver k = false) ∧ ∀ letter, ∃ cs,
      (converse o caller (Session.deliver letter) net).2.sent = net.sent ++ (opening ++ cs) ∧
        CarriesOut (handOverCommands letter) cs
          (converse o caller (Session.deliver letter) net).1 := by
  cases hscript : net.scriptAt? o.host o.port with
  | none =>
    refine ⟨[], List.forall_mem_nil _, fun letter => ⟨[], ?_, ?_⟩⟩
    · simp [converse_of_absent hscript, Network.sent]
    · rw [converse_of_absent hscript]
      exact carriesOut_nil _ _
  | some replies =>
    have henter : Sends (fun k => isHandOver k = false) (enter o caller) :=
      sends_enter rfl rfl rfl fun _ hcs => hcs.forall_of (fun _ _ => rfl) rfl fun _ => rfl
    obtain ⟨es, hlog, hes⟩ := henter (Wire.connect replies net.canProtect)
    refine ⟨commandsIn es, hes, fun letter => ?_⟩
    rw [converse_of_present hscript, play_bind]
    -- up to here the letter plays no part
    cases hplay : play (enter o caller) (Wire.connect replies net.canProtect) with
    | mk r w =>
      rw [hplay] at hlog
      replace hlog : w.log = es := hlog
      cases r with
      | error e => exact ⟨[], by simp [Network.sent, commandsIn, hlog], carriesOut_nil _ e⟩
      | ok c =>
        obtain ⟨ts, hlog', -, hts⟩ := takes_deliver letter c w
        refine ⟨ts.map Turn.command, ?_, hts.carriesOut⟩
        simp [Network.sent, commandsIn, hlog', hlog]

/-! ### What is open to view -/

/-- What is left of a command where recipients are left out, and the mark that an address needs more than
ASCII. -/
def Command.withoutRecipients? : Command → Option Command
  | .recipient _ => none
  | .sender a _ eightBit => some (.sender a false eightBit)
  | c => some c

def openView (cs : List Command) : List Command := cs.filterMap Command.withoutRecipients?

/-- What is open to view of handing over a letter: one sender, one announcement and one content. -/
def openPlan (letter : Mime.Letter) : List Command :=
  [.sender letter.sender false (Session.needsEightBit letter), .data, .payload letter.content]

theorem openView_handOverCommands (letter : Mime.Letter) :
    openView (handOverCommands letter) = openPlan letter := by
  have hnone : (letter.recipients.map .recipient).filterMap Command.withoutRecipients? = [] := by
    simp [Command.withoutRecipients?]
  rw [openView, handOverCommands, ← List.singleton_append, List.filterMap_append,
    List.filterMap_append, hnone]
  rfl

/-- The content and the sender decide what is open to view. -/
theorem openPlan_congr {letter letter' : Mime.Letter} (hsender : letter'.sender = letter.sender)
    (hcontent : letter'.content = letter.content) : openPlan letter' = openPlan letter := by
  rw [openPlan, openPlan, Session.needsEightBit, Session.needsEightBit, hsender, hcontent]

/-! ### Two runs -/

/-- After an opening that hands over nothing, a letter is handed over as far as that goes, and in open view
a plan is carried out. -/
structure IsRun (opening : List Command) (letter : Mime.Letter) (plan : List Command) (net : Network)
    (result : Except Error Unit × Network) : Prop where
  begins : ∀ k ∈ opening, isHandOver k = false
  sent : ∃ cs, result.2.sent = net.sent ++ (opening ++ cs) ∧
    CarriesOut (handOverCommands letter) cs result.1 ∧ CarriesOut plan (openView cs) result.1

/-- Of two messages that differ only in blind copies, and that can both be written down, the content is
the same. To the same server a client sends the same opening for both, and then what is open to view of the
first: all but the recipients, and the mark that an address needs more than ASCII. -/
theorem isRun_of_sameButBcc {o : Options} {caller : Caller} {c : Client Network} {m m' : Message}
    {letter letter' : Mime.Letter} (hclient : client o caller = .ok c) (h : m.SameButBcc m')
    (hletter : Mime.Letter.ofMessage m caller.date = .ok letter)
    (hletter' : Mime.Letter.ofMessage m' caller.date = .ok letter') (net : Network) :
    Mime.SameButHidden (Mime.envelopeAddresses (Mime.headerAddresses m.bcc))
        (Mime.envelopeAddresses (Mime.headerAddresses m'.bcc)) letter letter' ∧
      ∃ opening, IsRun opening letter (openPlan letter) net (c.deliver m net) ∧
        IsRun opening letter' (openPlan letter) net (c.deliver m' net) := by
  obtain ⟨-, rfl⟩ := Client.create_eq_ok_iff.1 hclient
  have hsame := Mime.sameButHidden_of_sameButBcc h hletter hletter'
  have hplan := openPlan_congr hsame.sender hsame.content
  obtain ⟨opening, hopening, hruns⟩ := exists_opening o caller net
  have hrun {m : Message} {letter : Mime.Letter}
      (hletter : Mime.Letter.ofMessage m caller.date = .ok letter) :
      IsRun opening letter (openPlan letter) net
        (Client.deliver { options := o, transport := transport o caller } m net) := by
    obtain ⟨cs, hsent, hcs⟩ := hruns letter
    rw [deliver_of_client hletter]
    have hcs := (hcs.mapError Fault.delivery).mapError Error.delivery
    exact ⟨hopening, cs, hsent, hcs, openView_handOverCommands letter ▸ hcs.filterMap rfl⟩
  exact ⟨hsame, opening, hrun hletter, hplan ▸ hrun hletter'⟩

def rerouted : Message := { circular with bcc := [⟨"d", "example.com"⟩] }

def roomyServer : Network where
  listener := some ⟨[Options.defaultHost], 25, ["220 hi", "250 mx", "250 ok", "250 ok", "250 ok", "250 ok",
    "354 go", "250 queued", "221 bye"].map String.toList⟩

/-- Both messages are delivered, and whoever gets the blind copy is not to be seen. -/
theorem rerouted_isRun :
    ∃ c letter letter', client default ⟨"client", ""⟩ = .ok c ∧ circular.SameButBcc rerouted ∧
      Mime.Letter.ofMessage circular "" = .ok letter ∧
      Mime.Letter.ofMessage rerouted "" = .ok letter' ∧
      (c.deliver circular roomyServer).1 = .ok () ∧ (c.deliver rerouted roomyServer).1 = .ok () ∧
      Mime.SameButHidden [⟨"a", "example.com"⟩] [⟨"d", "example.com"⟩] letter letter' ∧
      ∃ opening, IsRun opening letter (openPlan letter) roomyServer (c.deliver circular roomyServer) ∧
        IsRun opening letter' (openPlan letter) roomyServer (c.deliver rerouted roomyServer) := by
  have hclient : client default ⟨"client", ""⟩ = .ok ⟨default, transport default ⟨"client", ""⟩⟩ := rfl
  have hsame : circular.SameButBcc rerouted := rfl
  obtain ⟨letter, hletter⟩ := exists_eq_ok_of_isOk
    (show (Mime.Letter.ofMessage circular "").isOk = true by decide +kernel)
  obtain ⟨letter', hletter'⟩ := exists_eq_ok_of_isOk
    (show (Mime.Letter.ofMessage rerouted "").isOk = true by decide +kernel)
  obtain ⟨hhides, hruns⟩ := isRun_of_sameButBcc hclient hsame hletter hletter' roomyServer
  refine ⟨_, letter, letter', hclient, hsame, hletter, hletter', by decide +kernel, by decide +kernel,
    ?_, hruns⟩
  have hhidden : Mime.envelopeAddresses (Mime.headerAddresses circular.bcc) = [⟨"a", "example.com"⟩] :=
    by decide +kernel
  have hhidden' : Mime.envelopeAddresses (Mime.headerAddresses rerouted.bcc) = [⟨"d", "example.com"⟩] :=
    by decide +kernel
  exact hhidden ▸ hhidden' ▸ hhides

def copied : Message where
  sender := ⟨none, ⟨"me", "example.com"⟩⟩
  primary := [⟨"a", "example.com"⟩]
  bcc := [⟨"b", "example.com"⟩]
  subject := "Hi"
  body := ⟨"Body", .plain⟩

def foreignAddress : Address := ⟨"슀", "example.com"⟩

def foreignCopied : Message := { copied with bcc := [foreignAddress] }

def copiedRecipients (bcc : String) : Recipients :=
  .table { primary := some (.one "a@example.com"), bcc := some (.one bcc) }

private theorem wellFormed_foreignAddress : foreignAddress.WellFormed where
  noBlank := by
    have hnone : foreignAddress.text.toList.any Text.isBlank = false := by decide +kernel
    simpa only [List.any_eq_false, Bool.not_eq_true] using hnone
  noAngle := by decide +kernel
  noSign := by decide +kernel
  domain_ne_nil := by decide +kernel
  labels := by decide +kernel
  -- the table of letters need not be read for this character
  isLocalPart := by
    have hatom : Address.isAtomChar '슀' = true := by simp [Address.isAtomChar, Address.spellsTwoBytes]
    have hatoms : Text.splitAt (· == '.') ['슀'] = [['슀']] := by decide +kernel
    have hbytes : Text.byteCount ['슀'] = 3 := by decide +kernel
    simp [foreignAddress, Address.isLocalPart, Address.betweenQuotes?, Address.isDotAtom, hatom, hatoms,
      hbytes]
  isDomain := by decide +kernel

def worldlyServer : Network where
  listener := some ⟨[Options.defaultHost], 25, ["220 hi", "250-hello\r\n250 SMTPUTF8", "250 ok", "250 ok",
    "250 ok", "354 go", "250 queued", "221 bye"].map String.toList⟩

/-- The sender is named with a mark or without one, by who gets the blind copy. -/
theorem foreignCopied_marks_sender :
    Message.compose "me@example.com" (copiedRecipients "b@example.com") "Hi" "Body" .plain =
        .ok copied ∧
      Message.compose "me@example.com" (copiedRecipients "슀@example.com") "Hi" "Body" .plain =
        .ok foreignCopied ∧
      copied.SameButBcc foreignCopied ∧
      ((transport default ⟨"client", ""⟩).deliver copied worldlyServer).1 = .ok () ∧
      ((transport default ⟨"client", ""⟩).deliver foreignCopied worldlyServer).1 = .ok () ∧
      ((transport default ⟨"client", ""⟩).deliver copied worldlyServer).2.sent.take 2 =
        [.hello "client", .sender ⟨"me", "example.com"⟩ false false] ∧
      ((transport default ⟨"client", ""⟩).deliver foreignCopied worldlyServer).2.sent.take 2 =
        [.hello "client", .sender ⟨"me", "example.com"⟩ true false] := by
  have hcompose : Message.compose "me@example.com" (copiedRecipients "b@example.com") "Hi" "Body"
      .plain = .ok copied := by decide +kernel
  have hforeign : Message.compose "me@example.com" (copiedRecipients "슀@example.com") "Hi" "Body"
      .plain = .ok foreignCopied := by
    refine Message.compose_eq_ok_iff.2 ⟨by decide +kernel, ?_, by decide +kernel, rfl, rfl⟩
    intro role
    cases role with
    | primary => decide +kernel
    | cc => decide +kernel
    | bcc =>
      have haddresses : (copiedRecipients "슀@example.com").addresses .bcc = [foreignAddress.text] := by
        decide +kernel
      rw [haddresses, Address.readAll, List.mapM_cons, wellFormed_foreignAddress.parse_text]
      rfl
  have hm := (Message.wellFormed_of_compose hforeign).1
  have hletter : Mime.Letter.ofMessage foreignCopied (Caller.mk "client" "").date = .ok
      ⟨⟨"me", "example.com"⟩, foreignCopied.allRecipients, Mime.contentOf foreignCopied ""⟩ := by
    refine Mime.ofMessage_eq_ok_iff.2 ⟨by decide +kernel, ?_, rfl⟩
    refine (Mime.envelopeRecipients_eq_ok_iff hm).2 ⟨?_, by decide +kernel⟩
    exact ((Mime.keptRecipients_eq_iff hm).2 (by decide +kernel)).symm
  have hsame : copied.SameButBcc foreignCopied := rfl
  have hdeliver := deliver_of_letter hletter default worldlyServer
  refine ⟨hcompose, hforeign, hsame, by decide +kernel, ?_, by decide +kernel, ?_⟩
  · rw [hdeliver]
    decide +kernel
  · rw [hdeliver]
    decide +kernel

end Smtp

end Mailroom
