import DocComment.Settings.Load
import Mathlib.Tactic.Common

/-!
# Settings key by key

A document is asked for three settings, each of which has a key in the section `comments`. What is
found there is acceptable or not, and that alone decides about the setting and about what is said of
it: no other key plays a part, and a document without such a section has no entry for any key.

* `ofValue_eq`: each setting is what stands under its key, if that is acceptable, and there is one
  notice for each key under which something else stands;
* `ofValue_language`: the language that a document comes to is supported.
-/

namespace DocComment.Settings

open DocComment.Yaml

/-! ## Keys -/

/-- A key of the section. -/
inductive Key where
  | language
  | preserveRawReferences
  | rewriteLangwords
deriving DecidableEq

namespace Key

/-- How a key is spelled. -/
def name : Key → String
  | language => "language"
  | preserveRawReferences => "preserve_raw_references"
  | rewriteLangwords => "rewrite_langwords"

/-- The keys in the order in which they are looked at. -/
def all : List Key :=
  [language, preserveRawReferences, rewriteLangwords]

/-- What a document says under a key of its section: nothing, if it or its section is no mapping. -/
def entry? (document : Value) (key : Key) : Option Value :=
  (document.get? "comments").bind (·.get? key.name)

end Key

/-- The name of the dialect for the language that a value names. -/
def languageOf? : Value → Option String
  | .scalar (.text language) => (Dialect.ofLanguage? language).map Dialect.name
  | _ => none

/-- The boolean that a value is. -/
def boolOf? : Value → Option Bool
  | .scalar (.bool b) => some b
  | _ => none

namespace Key

/-- Whether a value is acceptable under a key. -/
def accepts : Key → Value → Bool
  | language, v => (languageOf? v).isSome
  | preserveRawReferences, v => (boolOf? v).isSome
  | rewriteLangwords, v => (boolOf? v).isSome

/-- What is said about a value that is not acceptable under a key. -/
def complaint (path : String) : Key → Value → Notice
  | language, .scalar (.text text) => .languageUnknown text path
  | language, _ => .languageNotText path
  | key, _ => .settingNotBoolean key.name path

/-- What is said about an entry: nothing, unless it is there and not acceptable. -/
def complaint? (path : String) (key : Key) (entry : Option Value) : Option Notice :=
  (entry.filter fun v => !key.accepts v).map (key.complaint path)

end Key

/-! ## One key -/

/-- What is said about an entry that is there and not acceptable. -/
lemma complaint?_of_rejected {path : String} {key : Key} {v : Value} (h : key.accepts v = false) :
    key.complaint? path (some v) = some (key.complaint path v) := by
  simp [Key.complaint?, Option.filter_some, h]

lemma complaint?_of_accepted {path : String} {key : Key} {v : Value} (h : key.accepts v = true) :
    key.complaint? path (some v) = none := by
  simp [Key.complaint?, Option.filter_some, h]

/-- A boolean setting is what stands under its key, if that is a boolean. -/
lemma readBool_eq (comments : Value) (path : String) {key : Key} (hkey : key ≠ .language)
    (default : Bool) :
    readBool comments key.name path default
      = (((comments.get? key.name).bind boolOf?).getD default,
          (key.complaint? path (comments.get? key.name)).toList) := by
  have haccepts (v : Value) : key.accepts v = (boolOf? v).isSome := by
    cases key with
    | language => exact absurd rfl hkey
    | preserveRawReferences => rfl
    | rewriteLangwords => rfl
  have hcomplaint (v : Value) : key.complaint path v = .settingNotBoolean key.name path := by
    cases key with
    | language => exact absurd rfl hkey
    | preserveRawReferences => rfl
    | rewriteLangwords => rfl
  rw [readBool]
  split
  · rename_i hentry
    rw [hentry]
    rfl
  · rename_i b hentry
    rw [hentry, complaint?_of_accepted (haccepts _)]
    rfl
  · rename_i v hother hentry
    have hnone : boolOf? v = none := by
      rw [boolOf?]
      exact hother
    rw [hentry, complaint?_of_rejected (by rw [haccepts, hnone]; rfl), hcomplaint,
      Option.bind_some, hnone]
    rfl

/-- The language is the one that stands under its key, if that has a dialect. -/
lemma readLanguage_eq (comments : Value) (path : String) {default : String}
    (hdefault : (Dialect.ofLanguage? default).map Dialect.name = some default) :
    readLanguage comments path default
      = (((comments.get? Key.language.name).bind languageOf?).getD default,
          (Key.language.complaint? path (comments.get? Key.language.name)).toList) := by
  show readLanguage comments path default
    = (((comments.get? "language").bind languageOf?).getD default,
        (Key.language.complaint? path (comments.get? "language")).toList)
  rw [readLanguage]
  split
  · rename_i hentry
    obtain ⟨dialect, hdialect, hname⟩ := Option.map_eq_some_iff.mp hdefault
    rw [hentry, hdialect]
    exact congrArg (·, []) hname
  · rename_i language hentry
    rw [hentry]
    split
    · rename_i dialect hdialect
      have haccepts : Key.language.accepts (.scalar (.text language)) = true := by
        simp [Key.accepts, languageOf?, hdialect]
      rw [complaint?_of_accepted haccepts]
      simp [languageOf?, hdialect]
    · rename_i hdialect
      have haccepts : Key.language.accepts (.scalar (.text language)) = false := by
        simp [Key.accepts, languageOf?, hdialect]
      rw [complaint?_of_rejected haccepts]
      simp [languageOf?, hdialect, Key.complaint]
  · rename_i v hother hentry
    have hnone : languageOf? v = none := by
      rw [languageOf?]
      exact hother
    have hcomplaint : Key.language.complaint path v = .languageNotText path := by
      rw [Key.complaint]
      exact hother
    rw [hentry, complaint?_of_rejected (by rw [Key.accepts, hnone]; rfl), hcomplaint,
      Option.bind_some, hnone]
    rfl

/-! ## All keys -/

/-- A section that is no mapping has no entries. -/
lemma get?_of_not_map {v : Value} (h : ∀ entries, v ≠ .map entries) (key : String) :
    v.get? key = none := by
  cases v with
  | map entries => exact absurd rfl (h entries)
  | scalar value => rfl
  | list items => rfl
  | set members => rfl
  | elided => rfl

lemma filterMap_all (f : Key → Option Notice) :
    Key.all.filterMap f
      = (f .language).toList ++ (f .preserveRawReferences).toList
        ++ (f .rewriteLangwords).toList := by
  rw [Key.all, List.filterMap_cons, List.filterMap_cons, List.filterMap_cons, List.filterMap_nil]
  cases f .language <;> cases f .preserveRawReferences <;> cases f .rewriteLangwords <;> rfl

/-- **Settings are read key by key.** Each setting is what its own key says, if that is acceptable,
and the default otherwise; and there is one notice for each key under which something stands that is
not acceptable. -/
theorem ofValue_eq (document : Value) (path : String) :
    ofValue document path
      = ({ language := ((Key.entry? document .language).bind languageOf?).getD "csharp"
           preserveRawReferences :=
             ((Key.entry? document .preserveRawReferences).bind boolOf?).getD false
           rewriteLangwords := ((Key.entry? document .rewriteLangwords).bind boolOf?).getD false },
          Key.all.filterMap fun key => key.complaint? path (key.entry? document)) := by
  rw [filterMap_all, ofValue]
  split
  · rename_i entries hsection
    have hentry (key : Key) :
        key.entry? document = (Value.map entries).get? key.name := by
      rw [Key.entry?, hsection]
      rfl
    have hlanguage : readLanguage (.map entries) path "csharp" = _ :=
      readLanguage_eq (.map entries) path (by decide +kernel)
    have hpreserve : readBool (.map entries) "preserve_raw_references" path false = _ :=
      readBool_eq (.map entries) path (show Key.preserveRawReferences ≠ .language by decide) false
    have hrewrite : readBool (.map entries) "rewrite_langwords" path false = _ :=
      readBool_eq (.map entries) path (show Key.rewriteLangwords ≠ .language by decide) false
    rw [ofSection, hlanguage, hpreserve, hrewrite, hentry, hentry, hentry]
  · rename_i hsection
    have hentry (key : Key) : key.entry? document = none := by
      rw [Key.entry?]
      cases hcomments : document.get? "comments" with
      | none => rfl
      | some comments =>
        refine get?_of_not_map (fun entries hmap => ?_) key.name
        exact hsection entries (by rw [hcomments, hmap])
    rw [hentry, hentry, hentry]
    rfl

/-! ## Languages -/

/-- Whatever name a dialect answers to, its own name is a supported language. -/
lemma name_mem_supported {language : String} {dialect : Dialect}
    (h : Dialect.ofLanguage? language = some dialect) : dialect.name ∈ Dialect.supported := by
  obtain ⟨before, after, hsplit, -⟩ := List.lookup_eq_some_iff.mp h
  have hmem : dialect ∈ Dialect.byName.map Prod.snd := by
    rw [hsplit]
    simp
  have hall : ∀ name ∈ (Dialect.byName.map Prod.snd).map Dialect.name,
      name ∈ Dialect.supported := by
    decide
  exact hall _ (List.mem_map_of_mem hmem)

lemma isSome_ofLanguage?_of_mem_supported {language : String} (h : language ∈ Dialect.supported) :
    (Dialect.ofLanguage? language).isSome = true := by
  have hall : ∀ name ∈ Dialect.supported, (Dialect.ofLanguage? name).isSome = true := by
    decide +kernel
  exact hall language h

/-- Whatever a document says, its settings name a supported language. -/
lemma ofValue_language (document : Value) (path : String) :
    (ofValue document path).1.language ∈ Dialect.supported := by
  rw [ofValue_eq]
  dsimp only
  cases hlanguage : (Key.entry? document .language).bind languageOf? with
  | none => decide
  | some name =>
    obtain ⟨v, -, hv⟩ := Option.bind_eq_some_iff.mp hlanguage
    rw [languageOf?.eq_def] at hv
    split at hv
    · obtain ⟨dialect, hdialect, rfl⟩ := Option.map_eq_some_iff.mp hv
      exact name_mem_supported hdialect
    · cases hv

/-- What comes of loading settings, by what comes of loading the document. -/
def ofLoaded (path : String) : Except LoadError Value → Except LoadFailure (Settings × List Notice)
  | .ok document => .ok (ofValue document path)
  | .error (.malformed _) => .ok ({}, [.unreadableSettings path])
  | .error (.badValue e) => .error (.badValue e)
  | .error (.undecodable e) => .error (.undecodable e)

lemma load_eq (bytes : List UInt8) (path : String) :
    load bytes path = ofLoaded path (Yaml.load 3 (Source.ofBytes bytes)) := by
  unfold load
  generalize Yaml.load 3 (Source.ofBytes bytes) = loaded
  cases loaded with
  | ok document => rfl
  | error e => cases e <;> rfl

/-- Where settings that are loaded come from: from a document, or they are the defaults because there
is none. -/
lemma load_cases {bytes : List UInt8} {path : String} {found : Settings × List Notice}
    (h : load bytes path = .ok found) :
    (∃ document, found = ofValue document path) ∨ found = ({}, [.unreadableSettings path]) := by
  rw [load_eq] at h
  generalize Yaml.load 3 (Source.ofBytes bytes) = loaded at h
  match loaded, h with
  | .ok document, h => exact Or.inl ⟨document, (Except.ok.inj h).symm⟩
  | .error (.malformed _), h => exact Or.inr (Except.ok.inj h).symm

end DocComment.Settings
