import Mailroom.Command.Run
import Mailroom.Proofs.Command.Settings
import Mailroom.Proofs.Json.Objects
import Mailroom.Proofs.Text.Utf8

/-! What the command prints of its options, given to it again. -/
namespace Mailroom.Command

open PropertyBag

variable {s : Surroundings} {path : String} {bag : PropertyBag}

/-! ### The file of what was printed -/

/-- The properties are read from a file of them. -/
theorem fileBag_of_propertiesText {files : Files} {o : Options} (hnormal : o.toBag.IsNormal)
    (h : files path = .ok (Text.utf8 (propertiesText o).toList)) : fileBag files path = .ok o.toBag := by
  have htext : files.text path = .ok (propertiesText o) := by
    simp only [Files.text, h, bind, Except.bind, Text.readUtf8_utf8, pure, Except.pure, String.ofList_toList]
  have hjson : Json.ofText (propertiesText o) = .ok o.toBag.toJson := Json.ofText_pretty o.toBag.inOrder
  have hbag : PropertyBag.ofJson o.toBag.toJson = .ok o.toBag := (ofJson_toJson_eq_self_iff _).2 hnormal
  simp only [fileBag, bind_eq_ok_iff, mapError_eq_ok_iff]
  exact ⟨_, htext, _, hjson, hbag⟩

def propertiesOf (path : String) : List String := ["--options-file=" ++ path, "properties"]

private theorem toList_optionsFile (path : String) :
    ("--options-file=" ++ path).toList =
      '-' :: '-' :: ("options-file".toList ++ '=' :: path.toList) := by
  rw [String.toList_append]
  rfl

private theorem take_optionsFile (h : path ≠ "") :
    Reading.take none {} ("--options-file=" ++ path) = .ok { given := [⟨.optionsFile, [path]⟩] } := by
  have hcut : Text.cutFirst? (· == '=') ("options-file".toList ++ '=' :: path.toList) =
    some ("options-file".toList, path.toList) := rfl
  have hcomplete : Reading.complete {} ⟨.optionsFile, [path]⟩ =
      .ok { given := [⟨.optionsFile, [path]⟩] } := by
    simp [Reading.complete, Field.repeats, Reading.has, Field.isPath, h]
  simp only [Reading.take, toList_optionsFile, Reading.takeLong, hcut, String.ofList_toList]
  exact hcomplete

private theorem parse_propertiesOf (h : path ≠ "") :
    parse (propertiesOf path) = .ok ⟨{ optionsFile := some path }, .properties⟩ := by
  -- No word that means something begins like the option.
  have hne : ∀ word : String, word.toList.take 3 ≠ ['-', '-', 'o'] → "--options-file=" ++ path ≠ word := by
    rintro _ hword rfl
    exact hword (by rw [toList_optionsFile]; rfl)
  have hverb : Verb.ofName? ("--options-file=" ++ path) = none := by
    unfold Verb.ofName?
    split
    · next heq => exact absurd heq (hne _ (by decide))
    · next heq => exact absurd heq (hne _ (by decide))
    · next heq => exact absurd heq (hne _ (by decide))
    · next heq => exact absurd heq (hne _ (by decide))
    · rfl
  have hhelp : ("--options-file=" ++ path == "help") = false := beq_eq_false_iff_ne.2 (hne _ (by decide))
  have hhyphens : "--options-file=" ++ path ≠ "--" := hne _ (by decide)
  have hbefore : readFields none {} (propertiesOf path) =
      .ok ({ given := [⟨.optionsFile, [path]⟩] }, some (.properties, [])) := by
    simp only [propertiesOf, readFields, verbAhead?, hverb, hhelp, if_neg hhyphens, take_optionsFile h]
    rfl
  simp only [parse, hbefore, bind, Except.bind]
  rfl

/-! ### Again -/

theorem ofBag_of_options {sources : Sources} {o : Options} (h : sources.options s = .ok o) :
    ∃ bag, bag.IsNormal ∧ Options.ofBag bag = .ok o := by
  rw [Sources.options, bind_eq_ok_iff] at h
  obtain ⟨bag, hbag, h⟩ := h
  exact ⟨bag, isNormal_bag hbag, mapError_eq_ok_iff.1 h⟩

/-- The properties of a file without overrides are those of the file. -/
private theorem bag_of_fileBag (h : fileBag s.files path = .ok bag) :
    Sources.bag { optionsFile := some path } s = .ok bag := by
  rw [Sources.bag, bind_eq_ok_iff]
  refine ⟨bag, h, ?_⟩
  rw [bind_eq_ok_iff]
  exact ⟨.empty, rfl, rfl⟩

private theorem options_of_propertiesText {sources : Sources} {s' : Surroundings} {o : Options}
    (h : sources.options s = .ok o) (hfile : s'.files path = .ok (Text.utf8 (propertiesText o).toList)) :
    Sources.options { optionsFile := some path } s' = .ok o := by
  obtain ⟨bag, hbag, ho⟩ := ofBag_of_options h
  have hread := Options.readFrom_of_ofBag ho
  have hbase : fileBag s'.files path = .ok o.toBag :=
    fileBag_of_propertiesText (hread.isNormal_toBag hbag) hfile
  rw [Sources.options, bag_of_fileBag hbase, bind_eq_ok_iff]
  exact ⟨_, rfl, mapError_eq_ok_iff.2 (hread.ofBag_toBag hbag)⟩

private theorem run_properties {arguments : List String} {sources : Sources} {o : Options}
    (harguments : parse arguments = .ok ⟨sources, .properties⟩) (h : sources.options s = .ok o)
    (caller : Smtp.Caller) (net : Smtp.Network) :
    run arguments s caller net = ({ exitCode := 0, output := propertiesText o }, net) := by
  simp only [run, harguments, Invocation.perform, h]
  rfl

/-- Options that were read from a normal bag are the same when they are read from their own bag or from
its JSON; that bag is normal and has the properties that are not read, and no others. So if the command
prints its properties, it has the same options and prints the same for a file of what it printed. -/
theorem properties_read_again :
    (∀ (bag : PropertyBag) (o : Options), bag.IsNormal → Options.ofBag bag = .ok o →
      Options.ofBag o.toBag = .ok o ∧ Options.ofJson o.toBag.toJson = .ok o ∧ o.toBag.IsNormal ∧
        ∀ k ∉ Options.recognizedKeys o.protocol, o.toBag.get? k = bag.get? k) ∧
      ∀ (arguments : List String) (sources : Sources) (s : Surroundings) (o : Options),
        parse arguments = .ok ⟨sources, .properties⟩ → sources.options s = .ok o →
          ∀ (caller : Smtp.Caller) (net : Smtp.Network),
            run arguments s caller net = ({ exitCode := 0, output := propertiesText o }, net) ∧
              ∀ (path : String) (s' : Surroundings), path ≠ "" →
                s'.files path = .ok (Text.utf8 (propertiesText o).toList) →
                  (∃ again, parse (propertiesOf path) = .ok again ∧ again.sources.options s' = .ok o) ∧
                    run (propertiesOf path) s' caller net =
                      ({ exitCode := 0, output := propertiesText o }, net) := by
  refine ⟨?_, ?_⟩
  · intro bag o hbag h
    have hread := Options.readFrom_of_ofBag h
    exact ⟨hread.ofBag_toBag hbag, hread.ofJson_toJson hbag, hread.isNormal_toBag hbag,
      fun _ => hread.get?_toBag⟩
  · intro arguments sources s o harguments h caller net
    refine ⟨run_properties harguments h caller net, ?_⟩
    intro path s' hpath hfile
    have hagain := options_of_propertiesText h hfile
    have hparse := parse_propertiesOf hpath
    exact ⟨⟨_, hparse, hagain⟩, run_properties hparse hagain caller net⟩

def foreignBag : PropertyBag :=
  .ofPairs [(protocolKey, "smtps"), (Options.hostKey .smtps, ""), (Options.starttlsKey, "true"), ("team", "post")]

def foreignOptions : Options :=
  { protocol := .smtps
    host := "localhost"
    port := 465
    starttls := false
    auth := false
    user := none
    password := none
    timeout := .ofSeconds 60
    extra := .ofPairs [(Options.starttlsKey, "true"), ("team", "post")] }

def foreignText : String :=
  "\x7b\n" ++
  "  \"mail.smtp.starttls.enable\": \"true\",\n" ++
  "  \"mail.smtps.auth\": \"false\",\n" ++
  "  \"mail.smtps.connectiontimeout\": \"60000\",\n" ++
  "  \"mail.smtps.host\": \"localhost\",\n" ++
  "  \"mail.smtps.port\": \"465\",\n" ++
  "  \"mail.transport.protocol\": \"smtps\",\n" ++
  "  \"team\": \"post\"\n" ++
  "\x7d\n"

def foreignSurroundings : Surroundings where
  lookup _ := none
  files path := if path = "mail.json" then .ok (Text.utf8 foreignText.toList) else .error .absent

def foreignOverrides : List String :=
  ["mail.transport.protocol=smtps", "mail.smtps.host=", "mail.smtp.starttls.enable= true", "team=post"]

def foreignArguments : List String := foreignOverrides.map ("--set=" ++ ·) ++ ["properties"]

theorem foreign_properties_read_again :
    (foreignBag.IsNormal ∧ Options.ofBag foreignBag = .ok foreignOptions ∧
      Options.ofBag foreignOptions.toBag = .ok foreignOptions ∧
      foreignOptions.toBag.get? Options.starttlsKey = some "true") ∧
      run foreignArguments foreignSurroundings ⟨"localhost", ""⟩ {} =
        ({ exitCode := 0, output := foreignText }, {}) ∧
      run (propertiesOf "mail.json") foreignSurroundings ⟨"localhost", ""⟩ {} =
        ({ exitCode := 0, output := foreignText }, {}) := by
  have hnormal : foreignBag.IsNormal := by decide +kernel
  have hoptions : Options.ofBag foreignBag = .ok foreignOptions := by decide +kernel
  have htext : propertiesText foreignOptions = foreignText := by decide +kernel
  have ⟨hread, hrun⟩ := properties_read_again
  obtain ⟨hsame, -, -, hkept⟩ := hread foreignBag foreignOptions hnormal hoptions
  have hstarttls : foreignBag.get? Options.starttlsKey = some "true" := by decide +kernel
  obtain ⟨hfirst, hagain⟩ := hrun foreignArguments { overrides := foreignOverrides } foreignSurroundings
    foreignOptions (by decide +kernel) (by decide +kernel) ⟨"localhost", ""⟩ {}
  obtain ⟨-, hsecond⟩ := hagain "mail.json" foreignSurroundings (by decide) (by rw [htext]; rfl)
  rw [htext] at hfirst hsecond
  exact ⟨⟨hnormal, hoptions, hsame, (hkept _ (by decide)).trans hstarttls⟩, hfirst, hsecond⟩

end Mailroom.Command
