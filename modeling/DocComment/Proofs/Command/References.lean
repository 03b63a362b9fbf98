import DocComment.Command
import DocComment.Proofs.Extraction.Reported

/-!
# Listing references

The references that are listed depend on the texts of the members alone: neither on their order,
their names and their lines nor on the settings. The settings can keep the list from being made,
because a comment that cannot be built ends the run, and keywords that are replaced take their
content with them.

* `ListsReferences.run_cases`: what such a run gives;
* `run_refs_congr`: two runs over the same texts give the same answer, unless one of them breaks off
  and the other does not.
-/

namespace DocComment.Command

open Markup

variable {cwd cwd' : String} {files files' : Files} {args args' : List String} {json : Bool}
  {settings settings' : Settings} {ms ms' : List Member}

/-- Whether a run lists the references of members: the arguments ask for it, the settings of the
project can be loaded and the members of the file are these. -/
def ListsReferences (cwd : String) (files : Files) (args : List String) (json : Bool)
    (settings : Settings) (ms : List Member) : Prop :=
  ∃ verbosity file project notices,
    Task.ofArgs files args = .perform verbosity (.refs file project json) ∧
      projectSettings cwd files project = .ok (settings, notices) ∧
      readMembers ((bytesAt files file).getD []) = .ok ms

/-- What is counted in members. -/
def tallyOf (ms : List Member) : Tally :=
  ({} : Tally).addAll ((ms.map Member.xml).flatMap reportsOf)

/-- A run lists what the members report, or breaks off because a comment cannot be built. -/
lemma ListsReferences.run_cases (h : ListsReferences cwd files args json settings ms) :
    ((∀ text ∈ ms.map Member.xml, CanBeCounted settings text) ∧
        (run cwd files args).failure = none ∧ (run cwd files args).exitCode = 0 ∧
        (run cwd files args).stdout = tallyText json (tallyOf ms)) ∨
      ((¬ ∀ text ∈ ms.map Member.xml, CanBeCounted settings text) ∧
        (run cwd files args).failure.isSome = true ∧ (run cwd files args).exitCode = 1 ∧
        (run cwd files args).stdout = "") := by
  obtain ⟨verbosity, file, project, notices, htask, hsettings, hmembers⟩ := h
  cases htally : (tallyReferences settings (shownPath file) ms).result with
  | error e =>
    obtain ⟨stderr, hrun⟩ : ∃ stderr, run cwd files args
        = { exitCode := 1, stderr, failure := some (.comment e) } := by
      simp only [run, htask, respond, perform, withMembers, hsettings, hmembers, htally]
      exact ⟨_, rfl⟩
    rw [hrun]
    refine Or.inr ⟨fun hall => ?_, rfl, rfl, rfl⟩
    cases htally.symm.trans (tallyReferences_eq_ok_iff.mpr ⟨hall, rfl⟩)
  | ok tally =>
    obtain ⟨stderr, hrun⟩ : ∃ stderr, run cwd files args
        = { stdout := tallyText json tally, stderr } := by
      simp only [run, htask, respond, perform, withMembers, hsettings, hmembers, htally]
      exact ⟨_, rfl⟩
    rw [hrun]
    obtain ⟨hall, rfl⟩ := tallyReferences_eq_ok_iff.mp htally
    exact Or.inl ⟨hall, rfl, rfl, rfl⟩

/-- Members with the same texts come to the same tally. -/
lemma tallyOf_perm (h : (ms.map Member.xml).Perm (ms'.map Member.xml)) :
    tallyOf ms = tallyOf ms' :=
  Tally.addAll_perm (h.flatMap_right reportsOf) {}

/-- The run goes through exactly if every member can be counted. -/
lemma ListsReferences.failure_eq_none_iff (h : ListsReferences cwd files args json settings ms) :
    (run cwd files args).failure = none ↔
      ∀ text ∈ ms.map Member.xml, CanBeCounted settings text := by
  obtain ⟨hall, hfailure, -⟩ | ⟨hsome, hfailure, -⟩ := h.run_cases
  · exact iff_of_true hfailure hall
  · refine iff_of_false (fun hnone => ?_) hsome
    rw [hnone] at hfailure
    cases hfailure

section

variable (h : ListsReferences cwd files args json settings ms)
  (h' : ListsReferences cwd' files' args' json settings' ms')
  (hsame : (ms.map Member.xml).Perm (ms'.map Member.xml))

include h h' hsame

/-- Two runs give the same answer exactly if both or none of them break off. -/
lemma same_answer_iff :
    (run cwd files args).stdout = (run cwd' files' args').stdout ∧
        (run cwd files args).exitCode = (run cwd' files' args').exitCode
      ↔ (run cwd files args).failure.isSome = (run cwd' files' args').failure.isSome := by
  obtain ⟨-, hfailure, hcode, hout⟩ | ⟨-, hfailure, hcode, hout⟩ := h.run_cases
  · obtain ⟨-, hfailure', hcode', hout'⟩ | ⟨-, hfailure', hcode', hout'⟩ := h'.run_cases
    · refine iff_of_true ⟨?_, hcode.trans hcode'.symm⟩ ?_
      · rw [hout, hout', tallyOf_perm hsame]
      · rw [hfailure, hfailure']
    · refine iff_of_false (fun hanswer => ?_) fun hsome => ?_
      · rw [hcode, hcode'] at hanswer
        exact absurd hanswer.2 (by decide)
      · rw [hfailure, hfailure'] at hsome
        cases hsome
  · obtain ⟨-, hfailure', hcode', hout'⟩ | ⟨-, hfailure', hcode', hout'⟩ := h'.run_cases
    · refine iff_of_false (fun hanswer => ?_) fun hsome => ?_
      · rw [hcode, hcode'] at hanswer
        exact absurd hanswer.2 (by decide)
      · rw [hfailure, hfailure'] at hsome
        cases hsome
    · exact iff_of_true ⟨hout.trans hout'.symm, hcode.trans hcode'.symm⟩
        (hfailure.trans hfailure'.symm)

/-- Two runs give the same answer if the texts of one can be counted exactly if those of the other
can. -/
lemma same_answer_of_counted (hcounted : (∀ text ∈ ms.map Member.xml, CanBeCounted settings text)
      ↔ ∀ text ∈ ms'.map Member.xml, CanBeCounted settings' text) :
    (run cwd files args).stdout = (run cwd' files' args').stdout ∧
      (run cwd files args).exitCode = (run cwd' files' args').exitCode := by
  refine (same_answer_iff h h' hsame).mpr ?_
  have hnone : (run cwd files args).failure = none ↔ (run cwd' files' args').failure = none :=
    h.failure_eq_none_iff.trans (hcounted.trans h'.failure_eq_none_iff.symm)
  rw [Bool.eq_iff_iff, ← not_iff_not, Bool.not_eq_true, Bool.not_eq_true, Option.isSome_eq_false_iff,
    Option.isSome_eq_false_iff, Option.isNone_iff_eq_none, Option.isNone_iff_eq_none]
  exact hnone

end

/-- **The list depends on the texts alone.** Two runs that list the references of members with the
same texts, in whatever order, print the same and exit with the same code, unless one breaks off and
the other does not. A run breaks off exactly if a comment cannot be built. Both or none do if their
settings treat keywords alike, and none does if the comments in the texts are legible. -/
theorem run_refs_congr (h : ListsReferences cwd files args json settings ms)
    (h' : ListsReferences cwd' files' args' json settings' ms')
    (hsame : (ms.map Member.xml).Perm (ms'.map Member.xml)) :
    let response := run cwd files args
    let response' := run cwd' files' args'
    (response.stdout = response'.stdout ∧ response.exitCode = response'.exitCode
      ↔ response.failure.isSome = response'.failure.isSome) ∧
    (response.failure = none ↔ ∀ m ∈ ms, CanBeCounted settings m.xml) ∧
    (settings.rewriteLangwords = settings'.rewriteLangwords →
      settings.language = settings'.language →
      response.stdout = response'.stdout ∧ response.exitCode = response'.exitCode) ∧
    ((∀ m ∈ ms, ∀ tree, ReadsAs m.xml tree → tree.root.commentsLegible = true) →
      response.stdout = response'.stdout ∧ response.exitCode = response'.exitCode) := by
  intro response response'
  refine ⟨same_answer_iff h h' hsame, ?_, fun hwords hlanguage => ?_, fun hlegible => ?_⟩
  · rw [h.failure_eq_none_iff, List.forall_mem_map]
  · refine same_answer_of_counted h h' hsame ?_
    simp only [hsame.mem_iff, canBeCounted_congr hwords hlanguage]
  · have hall : ∀ text ∈ ms.map Member.xml, ∀ s, CanBeCounted s text :=
      List.forall_mem_map.mpr fun m hm => canBeCounted_of_legible (hlegible m hm)
    refine same_answer_of_counted h h' hsame (iff_of_true ?_ ?_)
    · exact fun text htext => hall text htext settings
    · exact fun text htext => hall text (hsame.mem_iff.mpr htext) settings'

/-! ## Projects with one document -/

/-- The bytes of a text in ASCII. -/
def asciiBytes (text : String) : List UInt8 :=
  text.toList.map fun c => UInt8.ofNat c.toNat

/-- A directory that holds a documentation file and, maybe, settings. -/
def projectFiles (document : String) (config : Option String) : Files := fun path =>
  if path = "d.xml" then some (.file (asciiBytes document))
  else if path = Settings.location then config.map fun text => .file (asciiBytes text)
  else none

/-- What the name of a command with arguments that can be read asks for. -/
lemma ofArgs_command {files : Files} {name : String} {scope : Scope} {rest : List String}
    {a : Arguments} {request : Request} (hcommand : Scope.command? name = some scope)
    (hname : name.startsWith "-" = false) (hread : Arguments.read scope rest = .ok a)
    (heager : a.eager? = none) (hrequest : Request.ofArguments files scope a = .ok request) :
    Task.ofArgs files (name :: rest) = .perform .normal request := by
  have hwords : Arguments.read .program (name :: rest) = .ok { words := name :: rest } := by
    have hdash : name ≠ "--" := by
      rintro rfl
      exact absurd hname (by decide +kernel)
    rw [Arguments.read, if_neg hdash, hname]
    rfl
  rw [Task.ofArgs, withArguments, hwords]
  show Task.ofWords _ _ (name :: rest) = _
  rw [Task.ofWords, hcommand]
  dsimp only
  rw [withArguments, hread]
  dsimp only
  rw [heager]
  dsimp only
  rw [hrequest]
  rfl

lemma ofArgs_refs (document : String) (config : Option String) :
    Task.ofArgs (projectFiles document config) ["refs", "d.xml"]
      = .perform .normal (.refs "d.xml" none false) := by
  have hfile : Arguments.read .refs ["d.xml"] = .ok { words := ["d.xml"] } := by
    have hname : "d.xml".startsWith "-" = false := by decide +kernel
    rw [Arguments.read, if_neg (by decide), hname, Arguments.read]
    rfl
  exact ofArgs_command (by decide +kernel) (by decide +kernel) hfile rfl rfl

lemma projectSettings_none (document : String) :
    projectSettings "" (projectFiles document none) none = .ok ({}, []) := by
  have hfile : projectFiles document none Settings.location = none := by
    rw [projectFiles, if_neg (by decide), if_pos rfl]
    rfl
  rw [projectSettings, Option.map_none, Option.getD_none, bytesAt, hfile]

/-- Settings are read from the one place where a project may have them. -/
lemma projectSettings_some (document config : String) :
    projectSettings "" (projectFiles document (some config)) none
      = Settings.load (asciiBytes config) Settings.location := by
  have hfile : projectFiles document (some config) Settings.location
      = some (.file (asciiBytes config)) := by
    rw [projectFiles, if_neg (by decide), if_pos rfl]
    rfl
  have hshown : joinPath "" Settings.location = Settings.location := by decide +kernel
  rw [projectSettings, Option.map_none, Option.getD_none, bytesAt, hfile, Option.isSome_none,
    if_neg Bool.false_ne_true, hshown]

/-- Settings that have keywords replaced. -/
def keywordSettings : String :=
  "comments:\n  rewrite_langwords: true\n"

/-- The members of the document are listed, with the defaults and with settings that have keywords
replaced. -/
lemma listsReferences_projectFiles {document : String} {ms : List Member}
    (h : readMembers (asciiBytes document) = .ok ms) :
    ListsReferences "" (projectFiles document none) ["refs", "d.xml"] false {} ms ∧
      ListsReferences "" (projectFiles document (some keywordSettings)) ["refs", "d.xml"] false
        { rewriteLangwords := true } ms := by
  have hload : (Settings.load (asciiBytes keywordSettings) Settings.location).toOption.map Prod.fst
      = some { rewriteLangwords := true } := by
    decide +kernel
  obtain ⟨⟨settings, notices⟩, hloaded, rfl⟩ := exists_ok_of_map hload
  have hmembers (config : Option String) :
      readMembers ((bytesAt (projectFiles document config) "d.xml").getD []) = .ok ms := by
    rw [bytesAt, projectFiles, if_pos rfl]
    exact h
  refine ⟨⟨.normal, "d.xml", none, [], ofArgs_refs document none, projectSettings_none document,
    hmembers none⟩, ⟨.normal, "d.xml", none, notices, ofArgs_refs document _, ?_, hmembers _⟩⟩
  rw [projectSettings_some, hloaded]

lemma toNat_asciiByte {c : Char} (hc : c.toNat < 128) : (UInt8.ofNat c.toNat).toNat = c.toNat := by
  rw [UInt8.toNat_ofNat']
  omega

/-- ASCII is decoded byte by byte. -/
lemma decodeFrom_ascii {s : List Char} (hs : ∀ c ∈ s, c.toNat < 128) (position : Nat) :
    Text.Utf8.decodeFrom position (s.map fun c => UInt8.ofNat c.toNat) = .ok s := by
  induction s generalizing position with
  | nil => rfl
  | cons c s ih =>
    obtain ⟨hc, hs⟩ := List.forall_mem_cons.mp hs
    have hlow : UInt8.ofNat c.toNat < 0x80 := by
      rw [UInt8.lt_iff_toNat_lt, toNat_asciiByte hc]
      exact hc
    rw [List.map_cons, Text.Utf8.decodeFrom.eq_def]
    dsimp only
    rw [if_pos hlow, ih hs, toNat_asciiByte hc, Char.ofNat_toNat]
    rfl

/-- Bytes below 128 stand for the characters of the same numbers. -/
lemma decodeMarked_ascii {s : List Char} (hs : ∀ c ∈ s, c.toNat < 128) :
    Text.Utf8.decodeMarked (s.map fun c => UInt8.ofNat c.toNat) = .ok s := by
  cases s with
  | nil => rfl
  | cons c s =>
    obtain ⟨hc, -⟩ := List.forall_mem_cons.mp hs
    -- the mark does not begin with ASCII
    have hne : UInt8.ofNat c.toNat ≠ 0xEF := fun heq => by
      have hbyte := toNat_asciiByte hc
      rw [heq, show (0xEF : UInt8).toNat = 239 from rfl] at hbyte
      omega
    have hmark : Text.Utf8.mark.isPrefixOf
        ((c :: s).map fun c => UInt8.ofNat c.toNat) = false := by
      simp [Text.Utf8.mark, List.isPrefixOf, hne.symm]
    have hpart : ((c :: s).map fun c => UInt8.ofNat c.toNat).isPrefixOf Text.Utf8.mark
        = false := by
      simp [Text.Utf8.mark, List.isPrefixOf, hne]
    rw [Text.Utf8.decodeMarked, hmark, hpart]
    exact decodeFrom_ascii hs 0

/-- The members of a document in ASCII. -/
lemma readMembers_asciiBytes {document : String}
    (hascii : ∀ c ∈ document.toList, c.toNat < 128 ∧ c ≠ '\r') {ms : List Member}
    (h : members document = .ok ms) : readMembers (asciiBytes document) = .ok ms := by
  have hreturn : '\r' ∉ document.toList := fun hmem => (hascii _ hmem).2 rfl
  rw [readMembers, asciiBytes, decodeMarked_ascii fun c hc => (hascii c hc).1]
  dsimp only
  rw [Text.toLineFeeds_of_notMem hreturn, String.ofList_toList, h]
  rfl

/-! ## Two runs -/

/-- A member with a reference in a field. -/
def seeMember : String :=
  "<member><b><see cref=\"T:X\" /></b></member>"

/-- A member with a further reference. -/
def seealsoMember : String :=
  "<member><seealso cref=\"T:Y\" /></member>"

/-- Both members. -/
def bothMembers : String :=
  "<d>" ++ seeMember ++ seealsoMember ++ "</d>"

/-- Both members the other way round, on lines of their own. -/
def bothReversed : String :=
  "<d>\n" ++ seealsoMember ++ "\n" ++ seeMember ++ "</d>"

/-- The order of the members, their lines and the treatment of keywords do not show in what is
counted. -/
theorem run_refs_congr_reversed :
    (run "" (projectFiles bothMembers none) ["refs", "d.xml"]).stdout
      = (run "" (projectFiles bothReversed (some keywordSettings)) ["refs", "d.xml"]).stdout := by
  have hread : (members bothMembers).toOption.map (·.map Member.xml)
      = some [seeMember, seealsoMember] := by
    decide +kernel
  have hread' : (members bothReversed).toOption.map (·.map Member.xml)
      = some [seealsoMember, seeMember] := by
    decide +kernel
  have hcomments : ∀ text ∈ [seeMember, seealsoMember],
      (parse text).toOption.map (·.root.commentsLegible) = some true := by
    decide +kernel
  obtain ⟨ms, hms, htexts⟩ := exists_ok_of_map hread
  obtain ⟨ms', hms', htexts'⟩ := exists_ok_of_map hread'
  have hlists := (listsReferences_projectFiles
    (readMembers_asciiBytes (List.all_iff_forall_prop.mp (by decide +kernel)) hms)).1
  have hlists' := (listsReferences_projectFiles
    (readMembers_asciiBytes (List.all_iff_forall_prop.mp (by decide +kernel)) hms')).2
  have hsame : (ms.map Member.xml).Perm (ms'.map Member.xml) := by
    rw [htexts, htexts']
    exact List.Perm.swap _ _ _
  refine ((run_refs_congr hlists hlists' hsame).2.2.2 fun m hm tree hreads => ?_).1
  exact hreads.commentsLegible (hcomments m.xml (htexts ▸ List.mem_map_of_mem hm))

lemma membersOfTree_summaryKeyword (place inner innermost : Option Position) (value : String) :
    (membersOfTree ⟨summaryMember place inner [keywordComment innermost value], 0⟩).map Member.xml
      = [(summaryMember place inner [keywordComment innermost value]).renderString] := rfl

/-- The keyword in `overlongKeyword` keeps its references from being listed with the defaults, and
not with settings that have keywords replaced. -/
theorem run_refs_congr_overlongKeyword :
    ∃ ms,
      ListsReferences "" (projectFiles overlongKeyword none) ["refs", "d.xml"] false {} ms ∧
      ListsReferences "" (projectFiles overlongKeyword (some keywordSettings)) ["refs", "d.xml"]
        false { rewriteLangwords := true } ms ∧
      (run "" (projectFiles overlongKeyword none) ["refs", "d.xml"]).exitCode = 1 ∧
      (run "" (projectFiles overlongKeyword (some keywordSettings)) ["refs", "d.xml"]).exitCode
        = 0 := by
  obtain ⟨place, inner, innermost, hparse⟩ :=
    parse_summaryKeyword none none none (Text.digitLimit + 1)
  have hmembers : members overlongKeyword = .ok (membersOfTree
      ⟨summaryMember place inner [keywordComment innermost (onesReference (Text.digitLimit + 1))],
        0⟩) := map_eq_ok.mpr ⟨_, hparse false, rfl⟩
  obtain ⟨hlists, hlists'⟩ :=
    listsReferences_projectFiles (readMembers_asciiBytes (fun _ => mem_overlongKeyword) hmembers)
  obtain ⟨hkept, hreplaced⟩ := buildComment_overlongKeyword (Nat.lt_succ_self Text.digitLimit)
    place inner innermost .recorder
  refine ⟨_, hlists, hlists', ?_, ?_⟩
  · obtain ⟨hall, -⟩ | ⟨-, -, hcode, -⟩ := hlists.run_cases
    · rw [membersOfTree_summaryKeyword, List.forall_mem_singleton] at hall
      obtain ⟨c, hc⟩ := hall
      cases (hkept _ rfl).symm.trans hc
    · exact hcode
  · obtain ⟨-, -, hcode, -⟩ | ⟨hsome, -⟩ := hlists'.run_cases
    · exact hcode
    · rw [membersOfTree_summaryKeyword, List.forall_mem_singleton] at hsome
      obtain ⟨c, hc⟩ := hreplaced (Settings.contextFor { rewriteLangwords := true } none none none)
        rfl rfl rfl
      exact absurd ⟨some c, hc⟩ hsome

end DocComment.Command
