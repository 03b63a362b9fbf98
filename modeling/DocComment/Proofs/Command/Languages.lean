import DocComment.Proofs.Command.References
import DocComment.Proofs.Extraction.Notices
import DocComment.Proofs.Settings.Keys
import DocComment.Proofs.Steps

/-!
# The language of a run

A run that builds comments takes its language from the settings of the project or from its
arguments. Settings that are loaded name a supported language, and arguments are checked, so the
language always has a dialect, and nothing is ever said about one that has none.

* `language_of_ofArgs`: a language that the arguments give is supported;
* `stderr_perform`: what a request says on the side are the notices that it makes;
* `settings_usable`: how settings are found, that their language is supported and that no notice
  says otherwise.
-/

namespace DocComment.Command

/-! ## Languages from arguments -/

/-- A switch that has a value was given. -/
lemma mem_switches_of_value? {a : Arguments} {s : Switch} {value : String}
    (h : a.value? s = some value) : s ∈ a.switches := by
  obtain ⟨before, after, hgiven, -⟩ := List.lookup_eq_some_iff.mp h
  have hmem : (s, value) ∈ a.given := by
    rw [← List.mem_reverse, hgiven]
    simp
  exact List.mem_eraseDups.mpr (List.mem_map_of_mem hmem)

/-- A language that was given has been checked. -/
lemma language_of_checkSwitches {files : Files} {a : Arguments} (h : checkSwitches files a = .ok ())
    {language : String} (hlanguage : a.value? .language = some language) :
    language ∈ Dialect.supported := by
  have hcheck := mapError_eq_ok.mp (forM_eq_ok_iff.mp h _ (mem_switches_of_value? hlanguage))
  rw [hlanguage, Option.getD_some, checkSwitch] at hcheck
  by_contra hmem
  have hcontains : Dialect.supported.contains language = false := by
    simpa using hmem
  rw [hcontains] at hcheck
  cases hcheck

/-- A task to do something comes from the arguments of a command that have been checked. -/
lemma exists_arguments_of_ofArgs {files : Files} {args : List String} {verbosity : Verbosity}
    {request : Request} (h : Task.ofArgs files args = .perform verbosity request) :
    ∃ scope a, Request.ofArguments files scope a = .ok request := by
  have hwith {scope : Scope} {rest : List String} {next : Arguments → Task}
      (hperform : withArguments scope rest next = .perform verbosity request) :
      ∃ a, next a = .perform verbosity request := by
    rw [withArguments] at hperform
    split at hperform
    · cases hperform
    · split at hperform
      · cases hperform
      · cases hperform
      · exact ⟨_, hperform⟩
  rw [Task.ofArgs] at h
  split at h
  · cases h
  · obtain ⟨a, hwords⟩ := hwith h
    rw [Task.ofWords.eq_def] at hwords
    split at hwords
    · cases hwords
    · split at hwords
      · obtain ⟨_, hrefused⟩ := hwith hwords
        cases hrefused
      · rename_i scope _
        obtain ⟨b, hrequest⟩ := hwith hwords
        split at hrequest
        · cases hrequest
        · rename_i found hfound
          obtain ⟨-, rfl⟩ := Task.perform.inj hrequest
          exact ⟨scope, b, hfound⟩

/-- A language that an extraction is given is supported. -/
lemma language_of_ofArgs {files : Files} {args : List String} {verbosity : Verbosity}
    {file : String} {project : Option String} {json : Bool} {member : Option String}
    {language : String} {preserveRaw rewriteLangwords : Bool}
    (h : Task.ofArgs files args = .perform verbosity
      (.extract file project json member (some language) preserveRaw rewriteLangwords)) :
    language ∈ Dialect.supported := by
  obtain ⟨scope, a, hrequest⟩ := exists_arguments_of_ofArgs h
  unfold Request.ofArguments at hrequest
  obtain ⟨⟨⟩, hchecked, hrequest⟩ := bind_eq_ok.mp hrequest
  split at hrequest
  · split at hrequest
    · cases hrequest
    · cases pure_eq_ok.mp hrequest
  · obtain ⟨_, -, hrequest⟩ := bind_eq_ok.mp hrequest
    cases pure_eq_ok.mp hrequest
  · obtain ⟨_, -, hrequest⟩ := bind_eq_ok.mp hrequest
    have hlanguage := (Request.extract.inj (pure_eq_ok.mp hrequest)).2.2.2.2.1
    exact language_of_checkSwitches hchecked hlanguage

/-! ## What a request says on the side -/

/-- The settings with which a request builds comments, given those of the project: an extraction
puts its own choices in, and a list of references resolves references in any case. -/
def Request.settingsIn (settings : Settings) : Request → Settings
  | .extract _ _ _ _ language preserveRaw rewriteLangwords =>
    settings.override language preserveRaw rewriteLangwords
  | .refs _ _ _ => { settings with preserveRawReferences := false }
  | .checkId _ => settings

/-- What is noticed with the settings of a project and the members of a file, if both can be read. -/
def noticedWith (cwd : String) (files : Files) (project : Option String) (file : String)
    (next : Settings → List Member → List Notice) : List Notice :=
  match projectSettings cwd files project with
  | .error _ => []
  | .ok (settings, notices) =>
    match readMembers ((bytesAt files file).getD []) with
    | .error _ => notices
    | .ok members => notices ++ next settings members

/-- The notices that a request makes. -/
def noticesOf (cwd : String) (files : Files) (request : Request) : List Notice :=
  match request with
  | .extract file project _ member _ _ _ =>
    noticedWith cwd files project file fun settings members =>
      (extractComments (request.settingsIn settings) (shownPath file)
        (wantedMembers member members)).notices
  | .refs file project _ =>
    noticedWith cwd files project file fun settings members =>
      (tallyReferences (request.settingsIn settings) (shownPath file) members).notices
  | .checkId _ => []

/-- Whether a text is empty or tells one error. -/
def TellsError (text : String) : Prop :=
  text = "" ∨ ∃ reason, text = printed ("Error: " ++ reason)

lemma noticeLines_append (verbosity : Verbosity) (notices others : List Notice) :
    noticeLines verbosity (notices ++ others)
      = noticeLines verbosity notices ++ noticeLines verbosity others := by
  rw [noticeLines, List.filter_append, List.map_append, String.join_append]
  rfl

/-- A text that gives a reason after the word for an error tells an error. -/
lemma tellsError_printed (reason : String) : TellsError (printed ("Error: " ++ reason)) :=
  Or.inr ⟨reason, rfl⟩

/-- What is said before members are read, and what is said about them. -/
lemma stderr_withMembers {cwd : String} {files : Files} {verbosity : Verbosity}
    {project : Option String} {file : String} {next : Settings → List Member → String → Response}
    {noticed : Settings → List Member → List Notice}
    (hnext : ∀ settings members said, ∃ text, TellsError text ∧
      (next settings members said).stderr
        = said ++ noticeLines verbosity (noticed settings members) ++ text) :
    ∃ text, TellsError text ∧ (withMembers cwd files verbosity project file next).stderr
      = noticeLines verbosity (noticedWith cwd files project file noticed) ++ text := by
  rw [withMembers, noticedWith]
  cases projectSettings cwd files project with
  | error e => exact ⟨"", Or.inl rfl, rfl⟩
  | ok found =>
    obtain ⟨settings, notices⟩ := found
    dsimp only
    cases readMembers ((bytesAt files file).getD []) with
    | error e =>
      cases e with
      | undecodable e => exact ⟨"", Or.inl rfl, String.append_empty.symm⟩
      | malformed e =>
        refine ⟨_, ?_, rfl⟩
        rw [String.append_assoc, String.append_assoc]
        exact tellsError_printed _
    | ok members =>
      obtain ⟨text, htext, hstderr⟩ := hnext settings members (noticeLines verbosity notices)
      exact ⟨text, htext, by rw [noticeLines_append, hstderr]⟩

/-- What a request says on the side: the notices it makes, as far as they are shown, and at most one
error. -/
lemma stderr_perform (cwd : String) (files : Files) (verbosity : Verbosity) (request : Request) :
    ∃ text, TellsError text ∧ (perform cwd files verbosity request).stderr
      = noticeLines verbosity (noticesOf cwd files request) ++ text := by
  cases request with
  | extract file project json member language preserveRaw rewriteLangwords =>
    refine stderr_withMembers fun settings members said => ?_
    dsimp only
    split
    · -- where no member is wanted, none is built and nothing noticed
      rename_i hmissing
      have hnone : wantedMembers member members = [] :=
        List.isEmpty_iff.mp (Bool.and_eq_true_iff.mp hmissing).2
      rw [hnone]
      refine ⟨_, ?_, congrArg (· ++ _) String.append_empty.symm⟩
      have hword : "Error: member '" = "Error: " ++ "member '" := by decide +kernel
      rw [hword, String.append_assoc, String.append_assoc, String.append_assoc]
      exact tellsError_printed _
    · refine ⟨"", Or.inl rfl, ?_⟩
      rw [String.append_empty]
      split
      · rfl
      · split
        · rfl
        · rfl
  | refs file project json =>
    refine stderr_withMembers fun settings members said => ⟨"", Or.inl rfl, ?_⟩
    dsimp only
    rw [String.append_empty]
    split
    · rfl
    · rfl
  | checkId candidates => exact ⟨"", Or.inl rfl, rfl⟩

/-! ## No language without a dialect -/

/-- Where the settings of a project come from: there is no file, it holds a document, or none. -/
lemma projectSettings_cases {cwd : String} {files : Files} {project : Option String}
    {found : Settings × List Notice} (h : projectSettings cwd files project = .ok found) :
    found = ({}, []) ∨ ∃ path,
      (∃ document, found = Settings.ofValue document path) ∨
        found = ({}, [.unreadableSettings path]) := by
  rw [projectSettings] at h
  split at h
  · exact Or.inl (Except.ok.inj h).symm
  · exact Or.inr ⟨_, Settings.load_cases h⟩

/-- The settings of a project name a supported language. -/
lemma projectSettings_language {cwd : String} {files : Files} {project : Option String}
    {found : Settings × List Notice} (h : projectSettings cwd files project = .ok found) :
    found.1.language ∈ Dialect.supported := by
  have hdefault : ({} : Settings).language ∈ Dialect.supported := by decide
  obtain rfl | ⟨path, ⟨document, rfl⟩ | rfl⟩ := projectSettings_cases h
  · exact hdefault
  · exact Settings.ofValue_language document path
  · exact hdefault

/-- And so do those with which a request builds comments. -/
lemma settingsIn_language {cwd : String} {files : Files} {args : List String}
    {verbosity : Verbosity} {request : Request}
    (htask : Task.ofArgs files args = .perform verbosity request) {project : Option String}
    {settings : Settings} {notices : List Notice}
    (h : projectSettings cwd files project = .ok (settings, notices)) :
    (request.settingsIn settings).language ∈ Dialect.supported := by
  have hproject := projectSettings_language h
  cases request with
  | extract file project json member language preserveRaw rewriteLangwords =>
    cases language with
    | none => exact hproject
    | some language => exact language_of_ofArgs htask
  | refs file project json => exact hproject
  | checkId candidates => exact hproject

/-- Whether a notice says that a language has no dialect. -/
def isAboutDialect : Notice → Bool
  | .unsupportedLanguage _ _ => true
  | _ => false

/-- Building a comment in a supported language says nothing about dialects. -/
lemma isAboutDialect_buildComment {context : Context}
    (h : context.language ∈ Dialect.supported) (raw : Option String) (listener : Listener) :
    ∀ n ∈ (buildComment raw context listener).notices, isAboutDialect n = false := by
  have hdialect : (contextDialect context).2 = [] := by
    obtain ⟨dialect, hdialect⟩ :=
      Option.isSome_iff_exists.mp (Settings.isSome_ofLanguage?_of_mem_supported h)
    rw [contextDialect, hdialect]
  refine forall_notices_buildComment (fun n hn => ?_) (fun n hn => ?_) (fun n hn => ?_) raw listener
  · rw [isAboutDialect.eq_def]
    split
    · cases hn
    · rfl
  · rw [isAboutDialect.eq_def]
    split
    · cases hn
    · rfl
  · rw [hdialect] at hn
    cases hn

/-- Nor does reading settings. -/
lemma isAboutDialect_ofValue (document : Yaml.Value) (path : String) :
    ∀ n ∈ (Settings.ofValue document path).2, isAboutDialect n = false := by
  rw [Settings.ofValue_eq]
  intro n hn
  obtain ⟨key, -, hcomplaint⟩ := List.mem_filterMap.mp hn
  obtain ⟨v, -, rfl⟩ := Option.map_eq_some_iff.mp hcomplaint
  rw [Settings.Key.complaint.eq_def]
  split
  · rfl
  · rfl
  · rfl

lemma isAboutDialect_projectSettings {cwd : String} {files : Files} {project : Option String}
    {found : Settings × List Notice} (h : projectSettings cwd files project = .ok found) :
    ∀ n ∈ found.2, isAboutDialect n = false := by
  obtain rfl | ⟨path, ⟨document, rfl⟩ | rfl⟩ := projectSettings_cases h
  · exact fun n hn => by cases hn
  · exact isAboutDialect_ofValue document path
  · exact List.forall_mem_singleton.mpr rfl

/-- What is noticed with settings in a supported language says nothing about dialects. -/
lemma isAboutDialect_noticedWith {cwd : String} {files : Files} {project : Option String}
    {file : String} {next : Settings → List Member → List Notice}
    (hnext : ∀ settings notices, projectSettings cwd files project = .ok (settings, notices) →
      ∀ members, ∀ n ∈ next settings members, isAboutDialect n = false) :
    ∀ n ∈ noticedWith cwd files project file next, isAboutDialect n = false := by
  rw [noticedWith]
  split
  · exact fun n hn => by cases hn
  · rename_i settings notices hsettings
    have hnotices := isAboutDialect_projectSettings hsettings
    split
    · exact hnotices
    · exact List.forall_mem_append.mpr ⟨hnotices, hnext settings notices hsettings _⟩

/-- No request makes a notice about a language that has no dialect. -/
lemma isAboutDialect_noticesOf {cwd : String} {files : Files} {args : List String}
    {verbosity : Verbosity} {request : Request}
    (htask : Task.ofArgs files args = .perform verbosity request) :
    ∀ n ∈ noticesOf cwd files request, isAboutDialect n = false := by
  rw [noticesOf.eq_def]
  split
  · refine isAboutDialect_noticedWith fun settings notices hsettings members => ?_
    refine Reading.forall_notices_mapM (fun m => ?_) _
    exact isAboutDialect_buildComment (settingsIn_language htask hsettings) _ _
  · refine isAboutDialect_noticedWith fun settings notices hsettings members => ?_
    refine Reading.forall_notices_bind (Reading.forall_notices_mapM (fun m => ?_) _) fun _ => ?_
    · exact isAboutDialect_buildComment (settingsIn_language htask hsettings) _ _
    · exact fun n hn => by cases hn
  · exact fun n hn => by cases hn

open Settings in
/-- **Settings can always be used.** Each setting of a document is what its own key says, if that is
acceptable, and the default otherwise, with one notice for each key under which something else
stands. Whatever the arguments of a run choose, the settings with which it builds comments name a
supported language; so none of the notices that the run makes, which are all that it says on the
side besides an error, is about a language without a dialect. -/
theorem settings_usable {files : Files} {args : List String} {verbosity : Verbosity}
    {request : Request} (htask : Task.ofArgs files args = .perform verbosity request)
    (cwd : String) :
    (∀ bytes document path, Yaml.load 3 (Yaml.Source.ofBytes bytes) = .ok document →
      load bytes path = .ok (ofValue document path)) ∧
    (∀ (document : Yaml.Value) (path : String), ofValue document path
      = ({ language := ((Key.entry? document .language).bind languageOf?).getD "csharp"
           preserveRawReferences :=
             ((Key.entry? document .preserveRawReferences).bind boolOf?).getD false
           rewriteLangwords := ((Key.entry? document .rewriteLangwords).bind boolOf?).getD false },
          Key.all.filterMap fun key => key.complaint? path (key.entry? document))) ∧
    (∀ project settings notices, projectSettings cwd files project = .ok (settings, notices) →
      (request.settingsIn settings).language ∈ Dialect.supported) ∧
    (∃ text, TellsError text ∧ (run cwd files args).stderr
      = noticeLines verbosity (noticesOf cwd files request) ++ text) ∧
    ∀ language detail, .unsupportedLanguage language detail ∉ noticesOf cwd files request := by
  refine ⟨fun bytes document path hloaded => ?_, ofValue_eq,
    fun _ _ _ => settingsIn_language htask, ?_, fun language detail hmem => ?_⟩
  · rw [load_eq, hloaded]
    rfl
  · rw [run, htask]
    exact stderr_perform cwd files verbosity request
  · cases isAboutDialect_noticesOf htask _ hmem

/-- Settings whose language has no dialect. -/
def foreignSettings : String :=
  "comments:\n  language: klingon\n"

/-- Such arguments ask for the members of a document in a given language and for nothing else. -/
lemma ofArgs_extract_vb (document : String) (config : Option String) :
    Task.ofArgs (projectFiles document config) ["extract", "d.xml", "--language", "vb"]
      = .perform .normal (.extract "d.xml" none false none (some "vb") false false) := by
  have hswitch : Arguments.read .extract ["--language", "vb"]
      = .ok { given := [(.language, "vb")] } := by
    have hname : "--language".startsWith "-" = true := by decide +kernel
    have hread : readSwitch .extract "--language" ["vb"] = .ok ([(.language, "vb")], 1) := rfl
    rw [Arguments.read, if_neg (by decide), hname, if_pos (by decide), hread]
    show (Arguments.read .extract [] >>= _) = _
    rw [Arguments.read]
    rfl
  have hfile : Arguments.read .extract ["d.xml", "--language", "vb"]
      = .ok { given := [(.language, "vb")], words := ["d.xml"] } := by
    have hname : "d.xml".startsWith "-" = false := by decide +kernel
    rw [Arguments.read, if_neg (by decide), hname, hswitch]
    rfl
  exact ofArgs_command (by decide +kernel) (by decide +kernel) hfile rfl rfl

/-- A language on the command line takes the place of one in the settings that has no dialect. -/
theorem settings_usable_foreign :
    Task.ofArgs (projectFiles bothMembers (some foreignSettings))
        ["extract", "d.xml", "--language", "vb"]
      = .perform .normal (.extract "d.xml" none false none (some "vb") false false) ∧
    ∀ language detail, .unsupportedLanguage language detail ∉
      noticesOf "" (projectFiles bothMembers (some foreignSettings))
        (.extract "d.xml" none false none (some "vb") false false) :=
  ⟨ofArgs_extract_vb bothMembers (some foreignSettings),
    (settings_usable (ofArgs_extract_vb bothMembers (some foreignSettings)) "").2.2.2.2⟩

end DocComment.Command
