import Mailroom.Proofs.Smtp.Turns
import Mailroom.Proofs.Text.Cutting

/-! A server that agrees with everything, and lets every letter through. -/
namespace Mailroom.Smtp

def consentLines : List Char × List Char := ("250-8BITMIME\r".toList, "250 SMTPUTF8\r".toList)

def consent : List Char := consentLines.1 ++ '\n' :: "250 SMTPUTF8".toList

def consentReply : Reply := ⟨250, ["8BITMIME".toList, "SMTPUTF8".toList]⟩

def consents (k : Nat) : List Char := (List.replicate k (consent ++ ['\r', '\n'])).flatten

/-- The server has agreed so far, and has `n` replies left. -/
structure Obliges (n : Nat) (w : Wire) : Prop where
  replies : w.peer.replies = List.replicate n consent
  notInMessage : w.peer.inMessage = false
  notEnded : w.peer.ended = false
  unread : ∃ k, w.unread = consents k

private theorem consents_add (k l : Nat) : consents (k + l) = consents k ++ consents l := by
  rw [consents, ← List.replicate_append_replicate, List.flatten_append]
  rfl

private theorem consents_succ (k : Nat) :
    consents (k + 1) = consent ++ ['\r', '\n'] ++ consents k := by
  simp [consents, List.replicate_succ]

/-! ### The client reads a reply -/

private theorem takeLine_append (line : List Char) (h : '\n' ∉ line) (rest : List Char) :
    takeLine (line ++ '\n' :: rest) = (line ++ ['\n'], rest) := by
  induction line with
  | nil => rfl
  | cons c line ih =>
    simp only [List.mem_cons, not_or] at h
    have ih := ih h.2
    rw [List.cons_append, takeLine]
    · simp [ih]
    · exact fun hc => h.1 hc.symm

private theorem readReplyFrom_more {fuel : Nat} {read unread line rest : List Char}
    (hline : takeLine unread = (line, rest)) (hne : line ≠ [])
    (hscan : scanReply (read ++ line) = .more) :
    readReplyFrom (fuel + 1) read unread = readReplyFrom fuel (read ++ line) rest := by
  cases line with
  | nil => exact absurd rfl hne
  | cons c line => simp only [readReplyFrom, hline, hscan]

private theorem readReplyFrom_found {fuel : Nat} {read unread line rest rest' : List Char}
    {r : Reply} (hline : takeLine unread = (line, rest)) (hne : line ≠ [])
    (hscan : scanReply (read ++ line) = .found r rest') :
    readReplyFrom (fuel + 1) read unread = (.ok r, rest) := by
  cases line with
  | nil => exact absurd rfl hne
  | cons c line => simp only [readReplyFrom, hline, hscan]

theorem readReply_consent (rest : List Char) :
    readReply (consent ++ ['\r', '\n'] ++ rest) = (.ok consentReply, rest) := by
  have hfirst : takeLine (consent ++ ['\r', '\n'] ++ rest) =
      (consentLines.1 ++ ['\n'], consentLines.2 ++ '\n' :: rest) :=
    takeLine_append consentLines.1 (by decide) _
  have hsecond : takeLine (consentLines.2 ++ '\n' :: rest) = (consentLines.2 ++ ['\n'], rest) :=
    takeLine_append _ (by decide) rest
  have hfuel : (consent ++ ['\r', '\n'] ++ rest).length = (rest.length + 27) + 1 := by
    simp only [List.length_append]
    have hlen : consent.length = 26 := by decide
    simp only [hlen, List.length_cons, List.length_nil]
    omega
  rw [readReply, readReplyFrom_more hfirst (by simp) (by rfl), hfuel]
  have hscan : scanReply ([] ++ (consentLines.1 ++ ['\n']) ++ (consentLines.2 ++ ['\n'])) =
      .found consentReply [] := by rfl
  exact readReplyFrom_found hsecond (by simp) hscan

/-! ### The server hears a command -/

private theorem length_splitAt (d : Char) (cs : List Char) :
    (Text.splitAt (· == d) cs).length = cs.count d + 1 := by
  induction cs with
  | nil => rfl
  | cons c cs ih =>
    unfold Text.splitAt
    split
    · next hc =>
      obtain rfl : c = d := by simpa using hc
      simp [ih]
    · next hc =>
      have hc : c ≠ d := by simpa using hc
      cases hs : Text.splitAt (· == d) cs with
      | nil => exact absurd hs (Text.splitAt_ne_nil _ _)
      | cons w ws =>
        rw [hs] at ih
        simpa [List.count_cons_of_ne hc] using ih

def lineCount (c : Command) : Nat := (textLines c.text).length

private theorem lineCount_pos (c : Command) : 0 < lineCount c := by
  simp [lineCount, textLines, length_splitAt, Command.text]

private theorem opensMessage_consent (line : List Char) :
    Peer.opensMessage line (consent ++ ['\r', '\n']) = false := by
  have hcode : (Text.dropPrefix? "354".toList (consent ++ ['\r', '\n'])).isSome = false := by decide
  rw [Peer.opensMessage, hcode, Bool.and_false]

private theorem hearAll_consent {p : Peer} (lines : List (List Char)) {n : Nat}
    (hr : p.replies = List.replicate (n + lines.length) consent) (hm : p.inMessage = false)
    (he : p.ended = false) :
    ∃ p', p.hearAll lines = (p', consents lines.length) ∧ p'.replies = List.replicate n consent ∧
      p'.inMessage = false ∧ p'.ended = false := by
  induction lines generalizing p with
  | nil => exact ⟨p, rfl, hr, hm, he⟩
  | cons line lines ih =>
    have hreplies : p.replies = consent :: List.replicate (n + lines.length) consent := by
      rw [hr, List.length_cons, ← Nat.add_assoc, List.replicate_succ]
    have hhear : p.hear line =
        ({ p with
            replies := List.replicate (n + lines.length) consent
            heard := p.heard ++ [line] }, consent ++ ['\r', '\n']) := by
      simp only [Peer.hear, he, hm, Peer.reply, hreplies, opensMessage_consent]
      rfl
    obtain ⟨p', hall, hrest⟩ := ih (p := { p with
      replies := List.replicate (n + lines.length) consent
      heard := p.heard ++ [line] }) rfl hm he
    refine ⟨p', ?_, hrest⟩
    simp only [Peer.hearAll, hhear, hall, List.length_cons, consents_succ]

/-- A command is heard and agreed to. -/
theorem play_exchange_consent {m n : Nat} {w : Wire} {c : Command} (h : Obliges m w)
    (hm : m = n + lineCount c) :
    ∃ w', play (Session.exchange c) w = (.ok consentReply, w') ∧ Obliges n w' := by
  subst hm
  obtain ⟨k, hk⟩ := h.unread
  obtain ⟨p', hhear, hreplies, hmessage, hended⟩ :=
    hearAll_consent (textLines c.text) h.replies h.notInMessage h.notEnded
  obtain ⟨l, hl⟩ : ∃ l, k + (textLines c.text).length = l + 1 :=
    Nat.exists_eq_succ_of_ne_zero (by
      have hpos := lineCount_pos c
      unfold lineCount at hpos
      omega)
  have hunread : w.unread ++ consents (textLines c.text).length =
      consent ++ ['\r', '\n'] ++ consents l := by
    rw [hk, ← consents_add, hl, consents_succ]
  have hsend : play (Session.send c) w = (.ok (), { w with
      peer := p'
      unread := consent ++ ['\r', '\n'] ++ consents l
      log := w.log ++ [.sent c w.isProtected] }) := by
    simp only [Session.send, play_modify, hhear, hunread]
  refine ⟨{ w with
    peer := p'
    unread := consents l
    log := w.log ++ [.sent c w.isProtected] ++ [.got consentReply] }, ?_, ?_⟩
  · simp only [Session.exchange, play_bind, hsend, play_receive, readReply_consent]
    rfl
  · exact ⟨hreplies, hmessage, hended, l, rfl⟩

/-! ### A letter is let through -/

def lineCounts : List Command → Nat
  | [] => 0
  | c :: cs => lineCount c + lineCounts cs

private theorem lineCounts_append (cs ds : List Command) :
    lineCounts (cs ++ ds) = lineCounts cs + lineCounts ds := by
  induction cs with
  | nil => simp [lineCounts]
  | cons c cs ih =>
    rw [List.cons_append, lineCounts, lineCounts, ih]
    omega

private theorem play_recipients (as : List Address) {m n : Nat} {w : Wire} (h : Obliges m w)
    (hm : m = n + lineCounts (as.map .recipient)) :
    ∃ w', play (forIn as PUnit.unit fun a _ => do
        let _ ← Session.exchange (.recipient a)
        pure (ForInStep.yield PUnit.unit)) w = (.ok PUnit.unit, w') ∧ Obliges n w' := by
  induction as generalizing m w with
  | nil =>
    obtain rfl : m = n := by simpa [lineCounts] using hm
    exact ⟨w, rfl, h⟩
  | cons a as ih =>
    simp only [lineCounts, List.map_cons] at hm
    obtain ⟨w', hplay, h'⟩ := play_exchange_consent (c := .recipient a)
      (n := n + lineCounts (as.map .recipient)) h (by omega)
    obtain ⟨w'', hplay', h''⟩ := ih h' rfl
    exact ⟨w'', by simp only [List.forIn_cons, play_bind, hplay, play_pure, hplay'], h''⟩

private theorem play_handOver (letter : Mime.Letter) {m n : Nat} {w : Wire} (h : Obliges m w)
    (hm : m = n + lineCounts (handOverCommands letter)) :
    ∃ w', play (Session.handOver letter) w = (.ok (), w') ∧ Obliges n w' := by
  simp only [lineCounts, lineCounts_append, handOverCommands, Nat.add_zero] at hm
  obtain ⟨w₁, hsender, h₁⟩ := play_exchange_consent
    (c := .sender letter.sender (Session.needsUtf8 letter) (Session.needsEightBit letter))
    (n := n + lineCount .data + lineCount (.payload letter.content) +
      lineCounts (letter.recipients.map .recipient)) h (by omega)
  obtain ⟨w₂, hrecipients, h₂⟩ := play_recipients letter.recipients h₁ rfl
  obtain ⟨w₃, hdata, h₃⟩ := play_exchange_consent (c := .data)
    (n := n + lineCount (.payload letter.content)) h₂ (by omega)
  obtain ⟨w₄, hpayload, h₄⟩ := play_exchange_consent (c := .payload letter.content) h₃ rfl
  refine ⟨w₄, ?_, h₄⟩
  simp only [Session.handOver, play_bind, hsender, hrecipients, hdata, hpayload, play_pure]

/-- Taking leave never fails. -/
theorem play_hangUp (w : Wire) : (play Session.hangUp w).1 = .ok () := by
  rw [play_hangUp_eq]

def openCapabilities : Capabilities := { eightBit := true, utf8 := true }

private theorem play_deliver {letter : Mime.Letter} {m : Nat} {w : Wire} (h : Obliges m w)
    (hm : lineCounts (handOverCommands letter) ≤ m) :
    (play (Session.deliver letter openCapabilities) w).1 = .ok () := by
  obtain ⟨w', hplay, -⟩ := play_handOver letter
    (n := m - lineCounts (handOverCommands letter)) h (by omega)
  have hplay' : play (Session.orHangUp (Session.handOver letter)) w = (.ok (), w') := by
    simp only [Session.orHangUp, play_tryCatch, hplay]
  simp only [Session.deliver, openCapabilities, Bool.not_true, Bool.and_false, Bool.false_eq_true,
    if_false, play_bind, hplay', play_hangUp]

def obligingNetwork (o : Options) (replies : Nat) : Network where
  listener := some ⟨[o.host], o.port, List.replicate replies consent⟩

private theorem play_hello (name : String) {m n : Nat} {w : Wire} (h : Obliges m w)
    (hm : m = n + lineCount (.hello name)) :
    ∃ w', play (Session.hello name) w = (.ok openCapabilities, w') ∧ Obliges n w' := by
  obtain ⟨w', hplay, h'⟩ := play_exchange_consent h hm
  refine ⟨w', ?_, h'⟩
  have hreply : Capabilities.ofReply? consentReply = some openCapabilities := by decide
  simp only [Session.hello, Session.orHangUp, play_tryCatch, play_bind, hplay, hreply, play_pure]

private theorem play_enter (caller : Caller) (n : Nat) :
    ∃ w', play (enter default caller)
      (Wire.connect (List.replicate (n + lineCount (.hello caller.name) + 1) consent) false) =
        (.ok openCapabilities, w') ∧ Obliges n w' := by
  have hconnect : Wire.connect (List.replicate (n + lineCount (.hello caller.name) + 1) consent) false =
      { peer := { replies := List.replicate (n + lineCount (.hello caller.name)) consent }
        unread := consent ++ ['\r', '\n'] ++ [] } := rfl
  have hgreeting : play Session.receive {
      peer := { replies := List.replicate (n + lineCount (.hello caller.name)) consent }
      unread := consent ++ ['\r', '\n'] ++ [] } = (.ok consentReply, {
      peer := { replies := List.replicate (n + lineCount (.hello caller.name)) consent }
      log := [.got consentReply] }) := by
    simp only [play_receive, readReply_consent]
    rfl
  obtain ⟨w', hhello, h'⟩ := play_hello caller.name (n := n) (w := {
    peer := { replies := List.replicate (n + lineCount (.hello caller.name)) consent }
    log := [.got consentReply] })
    ⟨rfl, rfl, rfl, 0, rfl⟩ rfl
  refine ⟨w', ?_, h'⟩
  have hsecurity : (default : Options).security = .none := rfl
  have hnone : credentials? (default : Options) = none := rfl
  rw [hconnect]
  simp only [enter, upgradeIfAsked, logInIfAsked, hsecurity, hnone, reduceCtorEq, if_false, play_bind,
    hgreeting, hhello, play_pure]

/-- Every letter is delivered somewhere. -/
theorem converse_obliging (letter : Mime.Letter) (caller : Caller) :
    ∃ replies, (converse default caller (Session.deliver letter)
      (obligingNetwork default replies)).1 = .ok () := by
  refine ⟨lineCounts (handOverCommands letter) + lineCount (.hello caller.name) + 1, ?_⟩
  obtain ⟨w, henter, h⟩ := play_enter caller (lineCounts (handOverCommands letter))
  have hdeliver := play_deliver h (Nat.le_refl _)
  have hscript : ∀ o n, (obligingNetwork o n).scriptAt? o.host o.port =
      some (List.replicate n consent) := by
    intro o n
    simp [Network.scriptAt?, obligingNetwork]
  rw [converse_of_present (hscript _ _)]
  change (play (enter default caller >>= Session.deliver letter) (Wire.connect _ false)).1 = .ok ()
  simp only [play_bind, henter, hdeliver]

end Mailroom.Smtp
