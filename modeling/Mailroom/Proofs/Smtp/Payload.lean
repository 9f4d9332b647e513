import Mailroom.Proofs.Mime.Folding
import Mailroom.Proofs.Text.Cutting
import Mailroom.Proofs.Text.Trimming
import Mailroom.Smtp.Command
import Mailroom.Smtp.Peer

/-! The lines of a message on the way to a server. -/
namespace Mailroom.Smtp

open Mime

def stuffed (line : List Char) : List Char :=
  if line.head? = some '.' then '.' :: line else line

def heardLine (line : List Char) : List Char := Text.stripEnd (· == '\r') (stuffed line)

def messageLines (content : List Char) : List (List Char) := textLines (Command.payload content).text

variable {cs rest l : List Char} {ls : List (List Char)}

/-! ### Points -/

/-- A character that is no line feed, and no point in front of a line, is sent as it is. -/
private theorem doublePoints_cons {place : LinePlace} {c : Char} (hfeed : c ≠ '\n')
    (hpoint : c = '.' → place ≠ .start) (r : List Char) :
    doublePoints place (c :: r) = c :: doublePoints (if c = '\r' then .afterReturn else .inside) r := by
  by_cases hreturn : c = '\r'
  · subst hreturn
    simp [doublePoints]
  · by_cases hc : c = '.'
    · subst hc
      simp [doublePoints, hpoint rfl]
    · rw [doublePoints, if_neg hreturn]
      · exact hreturn
      · exact hfeed
      · exact hc

/-- No line begins behind a character that is no line feed. -/
private theorem place_ne_start (c : Char) :
    (if c = '\r' then LinePlace.afterReturn else .inside) ≠ .start := by
  split
  · decide
  · decide

/-- Within a line nothing changes, and behind its end a line begins. -/
private theorem doublePoints_inside {place : LinePlace} (hplace : place ≠ .start) (h : '\n' ∉ l)
    (rest : List Char) :
    doublePoints place (l ++ '\r' :: '\n' :: rest) = l ++ '\r' :: '\n' :: doublePoints .start rest := by
  induction l generalizing place with
  | nil => simp [doublePoints]
  | cons c l ih =>
    obtain ⟨hc, hl⟩ : '\n' ≠ c ∧ '\n' ∉ l := by simpa using h
    rw [List.cons_append, doublePoints_cons hc.symm fun _ => hplace, ih (place_ne_start c) hl,
      List.cons_append]

private theorem doublePoints_line (h : '\n' ∉ l) (rest : List Char) :
    doublePoints .start (l ++ '\r' :: '\n' :: rest) =
      stuffed l ++ '\r' :: '\n' :: doublePoints .start rest := by
  cases l with
  | nil => simp [doublePoints, stuffed]
  | cons c l =>
    obtain ⟨hc, hl⟩ : '\n' ≠ c ∧ '\n' ∉ l := by simpa using h
    by_cases hpoint : c = '.'
    · subst hpoint
      simp [doublePoints, stuffed, doublePoints_inside _ hl]
    · have hstuffed : stuffed (c :: l) = c :: l := by simp [stuffed, hpoint]
      rw [hstuffed, List.cons_append, doublePoints_cons hc.symm fun h => absurd h hpoint,
        doublePoints_inside (place_ne_start c) hl, List.cons_append]

/-- In a text of whole lines, each line is sent as it is alone. -/
theorem doublePoints_joinLines (h : ∀ l ∈ ls, '\n' ∉ l) :
    doublePoints .start (joinLines ls) = joinLines (ls.map stuffed) := by
  induction ls with
  | nil => rfl
  | cons l ls ih =>
    obtain ⟨hl, hls⟩ := List.forall_mem_cons.1 h
    rw [joinLines_cons, doublePoints_line hl, ih hls, List.map_cons, joinLines_cons]

/-- The end of a last line is sent as it is. -/
private theorem doublePoints_append_lineEnd (place : LinePlace) (cs : List Char) :
    doublePoints place (cs ++ ['\r', '\n']) = doublePoints place cs ++ ['\r', '\n'] := by
  fun_induction doublePoints place cs with
  | case1 place => simp [doublePoints]
  | case2 place r ih => simpa [doublePoints] using ih
  | case3 place r ih => simpa [doublePoints] using ih
  | case4 r ih => simpa [doublePoints] using ih
  | case5 place r hplace ih => simpa [doublePoints, hplace] using ih
  | case6 place c r hreturn hfeed hpoint ih =>
    rw [List.cons_append, doublePoints, ih, List.cons_append]
    · exact hreturn
    · exact hfeed
    · exact hpoint

/-! ### Lines that are heard -/

theorem textLines_joinLines (h : ∀ l ∈ ls, '\n' ∉ l) :
    textLines (joinLines ls) = ls.map (Text.stripEnd (· == '\r')) := by
  have hsplit : Text.splitAt (· == '\n') (joinLines ls) = ls.map (· ++ ['\r']) ++ [[]] := by
    induction ls with
    | nil => rfl
    | cons l ls ih =>
      obtain ⟨hl, hls⟩ := List.forall_mem_cons.1 h
      have hnone : ∀ x ∈ l ++ ['\r'], (x == '\n') = false := by
        intro x hx
        have hne : x ≠ '\n' := by
          rintro rfl
          simp [hl] at hx
        simpa using hne
      have hcut := Text.splitAt_append hnone (c := '\n') rfl (joinLines ls)
      simpa [ih hls] using hcut
  rw [textLines, hsplit, List.dropLast_concat, List.map_map]
  apply List.map_congr_left
  intro l _
  simp [Text.stripEnd]

/-- A message is sent line by line, and a point after the last one. -/
theorem hasLines_payload (h : HasLines cs ls) :
    HasLines (Command.payload cs).line (ls.map stuffed ++ [['.']]) := by
  constructor
  · have hpayload : (Command.payload cs).line = doublePoints .start cs ++ "\r\n.".toList := rfl
    have hend : "\r\n.".toList = ['\r', '\n'] ++ ['.'] := rfl
    rw [joinLines_append, ← doublePoints_joinLines h.noFeed, h.join, doublePoints_append_lineEnd, hpayload,
      hend, joinLines_cons, joinLines_nil]
    simp only [List.append_assoc]
  · rw [List.forall_mem_append, List.forall_mem_map]
    refine ⟨fun l hl => ?_, by simp⟩
    have hfeed := h.noFeed l hl
    unfold stuffed
    split
    · simpa using hfeed
    · exact hfeed

theorem messageLines_eq (h : HasLines cs ls) : messageLines cs = ls.map heardLine ++ [['.']] := by
  have hlines := hasLines_payload h
  rw [messageLines, Command.text, ← hlines.join, textLines_joinLines hlines.noFeed, List.map_append,
    List.map_map]
  rfl

/-- No line of a text is heard as the one that ends a message. -/
private theorem heardLine_ne_point (l : List Char) : heardLine l ≠ ['.'] := by
  intro h
  -- but for carriage returns there would be a single point, which is what a point is doubled for
  have hline : stuffed l = '.' :: ((stuffed l).reverse.takeWhile (· == '\r')).reverse := by
    have hparts := List.takeWhile_append_dropWhile (p := (· == '\r')) (l := (stuffed l).reverse)
    have hlast : (stuffed l).reverse.dropWhile (· == '\r') = ['.'] := by
      simpa [heardLine, Text.stripEnd] using congrArg List.reverse h
    rw [hlast] at hparts
    simpa using congrArg List.reverse hparts.symm
  have hreturns : ∀ c ∈ ((stuffed l).reverse.takeWhile (· == '\r')).reverse, c = '\r' := by
    intro c hc
    simpa using List.mem_takeWhile_imp (List.mem_reverse.1 hc)
  generalize ((stuffed l).reverse.takeWhile (· == '\r')).reverse = returns at hline hreturns
  unfold stuffed at hline
  split at hline
  · next hhead =>
    obtain ⟨-, rfl⟩ := List.cons.inj hline
    exact absurd (hreturns '.' (List.mem_of_mem_head? hhead)) (by decide)
  · next hhead => exact hhead (by rw [hline]; rfl)

/-- A line of a field is heard as it is. -/
private theorem heardLine_of_isInline (h : IsInline l) (hpoint : l.head? ≠ some '.') :
    heardLine l = l := by
  rw [heardLine, stuffed, if_neg hpoint, Text.stripEnd_eq_rdropWhile, List.rdropWhile_eq_self_iff]
  intro hne
  simpa using (h _ (List.getLast_mem hne)).1

/-! ### The lines of a composed message -/

section
variable {m : Message}

/-- The lines of fields are heard as they are. -/
private theorem map_heardLine_flatten {fields : List (List (List Char))}
    (h : List.Forall₂ IsField (fieldNames m) fields) : fields.flatten.map heardLine = fields.flatten := by
  conv_rhs => rw [← List.map_id fields.flatten]
  apply List.map_congr_left
  intro l hl
  obtain ⟨hinline, -, hpoint⟩ := line_of_mem_fields h hl
  exact heardLine_of_isInline hinline hpoint

/-- A server hears the fields of a message as they are, and then the lines of the text. -/
theorem exists_messageLines (h : m.WellFormed) :
    ∃ fields body, ['.'] ∉ body ∧ ∀ f date, IsInline date.toList →
      IsLined (Command.payload (contentOf (m.inFormat f) date)).line ∧
      List.Forall₂ IsField (fieldNames m) (fields ++ closing m f date) ∧
      messageLines (contentOf (m.inFormat f) date) =
        (fields ++ closing m f date).flatten ++ [] :: (body ++ [['.']]) := by
  obtain ⟨fields, bs, hcontent⟩ := exists_hasLines_contentOf h
  refine ⟨fields, bs.map heardLine, by simp [heardLine_ne_point], fun f date hdate => ?_⟩
  obtain ⟨hfields, hlines⟩ := hcontent f date hdate
  refine ⟨⟨_, hasLines_payload hlines⟩, hfields, ?_⟩
  rw [messageLines_eq hlines, List.map_append, map_heardLine_flatten hfields, List.append_assoc]
  rfl

/-- Until its last line a server takes all of a message in, and it answers once. -/
theorem hearAll_append_point {p : Peer} (hm : p.inMessage = true) (he : p.ended = false)
    (h : ['.'] ∉ ls) :
    p.hearAll (ls ++ [['.']]) =
      ({ p with heard := p.heard ++ (ls ++ [['.']]), inMessage := false } : Peer).reply := by
  induction ls generalizing p with
  | nil => simp [Peer.hearAll, Peer.hear, hm, he]
  | cons l ls ih =>
    obtain ⟨hl, hls⟩ : l ≠ ['.'] ∧ ['.'] ∉ ls := by simpa [eq_comm] using h
    have hhear : p.hear l = ({ p with heard := p.heard ++ [l] }, []) := by
      simp [Peer.hear, hm, he, hl]
    have hrest := ih (p := { p with heard := p.heard ++ [l] }) hm he hls
    simp [Peer.hearAll, hhear, hrest]

end

/-- A message goes out in its fields, each one once and all of them in order, an empty line, the lines of
its text and a point. The empty line is the first one, and the point is the only one. -/
structure IsFramed (m : Message) (content : List Char) : Prop where
  /-- No line ends but with a carriage return and a line feed. -/
  isLined : IsLined (Command.payload content).line
  lines : ∃ fields body, messageLines content = fields.flatten ++ [] :: (body ++ [['.']]) ∧
    List.Forall₂ IsField (fieldNames m) fields ∧ [] ∉ fields.flatten ∧
    ['.'] ∉ fields.flatten ++ [] :: body
  /-- A server that takes in a message takes in this one, and nothing else. -/
  heard : ∀ p : Peer, p.inMessage = true → p.ended = false →
    p.hearAll (messageLines content) =
      ({ p with heard := p.heard ++ messageLines content, inMessage := false } : Peer).reply

/-- Whatever a message holds, its lines are those of its fields and of its text: no subject and no name adds
a field, and no text ends the message early. -/
theorem isFramed_of_compose {sender subject text : String} {recipients : Recipients} {format : BodyFormat}
    {m : Message} {date : String} {letter : Letter}
    (h : Message.compose sender recipients subject text format = .ok m)
    (hletter : Letter.ofMessage m date = .ok letter) (hdate : IsInline date.toList) :
    IsFramed m letter.content := by
  have hcontent : letter.content = contentOf (m.inFormat m.body.format) date :=
    (ofMessage_eq_ok_iff.1 hletter).2.2
  obtain ⟨fields, body, hbody, hlines⟩ := exists_messageLines (Message.wellFormed_of_compose h).1
  obtain ⟨hlined, hall, hheard⟩ := hlines m.body.format date hdate
  rw [← hcontent] at hlined hheard
  generalize fields ++ closing m m.body.format date = all at hall hheard
  have hpoint : ['.'] ∉ all.flatten ++ [] :: body := by
    rw [List.mem_append, List.mem_cons]
    rintro (hmem | hempty | hmem)
    · exact (line_of_mem_fields hall hmem).2.2 rfl
    · cases hempty
    · exact hbody hmem
  refine ⟨hlined, ⟨all, body, hheard, hall, fun hmem => (line_of_mem_fields hall hmem).2.1 rfl, hpoint⟩, ?_⟩
  intro p hm he
  have hend : messageLines letter.content = all.flatten ++ [] :: body ++ [['.']] := by
    rw [hheard]
    simp
  rw [hend]
  exact hearAll_append_point hm he hpoint

/-- A message that would break out wherever it has a free text. -/
def unruly : Message where
  sender := ⟨some "Ann: \té", ⟨"me", "example.com"⟩⟩
  cc := [⟨"a", "example.com"⟩]
  subject := "Hi\r\nBcc: b@example.com\r\n\r\n."
  body := ⟨"a\r\n.\r\nQUIT\n.\n", .html⟩

theorem unruly_isFramed :
    Message.compose "Ann: \té <me@example.com>" (.table { cc := some (.one "a@example.com") })
        "Hi\r\nBcc: b@example.com\r\n\r\n." "a\r\n.\r\nQUIT\n.\n" .html = .ok unruly ∧
      fieldNames unruly = ["From", "Subject", "Cc", "Content-Type", "Content-Transfer-Encoding", "Date"] ∧
      ∃ letter, Letter.ofMessage unruly "Thu, 01 Jan 1970 00:00:00 +0000" = .ok letter ∧
        IsFramed unruly letter.content := by
  have hcompose : Message.compose "Ann: \té <me@example.com>" (.table { cc := some (.one "a@example.com") })
      "Hi\r\nBcc: b@example.com\r\n\r\n." "a\r\n.\r\nQUIT\n.\n" .html = .ok unruly := by decide +kernel
  obtain ⟨letter, hletter⟩ := exists_eq_ok_of_isOk (show
    (Letter.ofMessage unruly "Thu, 01 Jan 1970 00:00:00 +0000").isOk = true by decide +kernel)
  have hdate : IsInline "Thu, 01 Jan 1970 00:00:00 +0000".toList := by decide +kernel
  exact ⟨hcompose, by decide, letter, hletter, isFramed_of_compose hcompose hletter hdate⟩

end Mailroom.Smtp
