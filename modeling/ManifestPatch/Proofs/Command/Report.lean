import ManifestPatch.Command.Check
import Mathlib.Data.List.Forall2

/-!
# What a Check Reports

A check tells apart three sorts of operations: those without a place in the manifest, those that
would remove or replace an attribute that is missing, and all others. The lines that it prints are
written out here, text by text: what is said about an operation after its number, the warning about
a root of another name, and the report of a failure with its causes. The functions that make these
lines are shown to make just them.

## Main definitions

* `Operation.HasNoPlace`, `Operation.LacksAttribute`: the sorts of operations.
* `Operation.IsReport`: what is written about an operation.
* `Settings.Warns`: what is written about the root of a manifest.
* `DocumentError.Says`, `SelectorError.Says`, `Settings.Issue.Says`: what an error says.
* `Failure.Says`, `Failure.IsReport`: what a failure says, and how it is reported.

## Main results

* `Text.hanging_eq_indented`: the lines of a text are moved by cutting and joining it.
* `Operation.isReport_report_verdict`: the report of a verdict is what is written.
* `Operation.IsReport.unique`: nothing else is.
* `Failure.Says.isReport_report`: the report of a failure says what failed.
-/

namespace ManifestPatch

/-! ### Columns and lines -/

namespace Text

/-- So many blanks. -/
def blanks (n : Nat) : String :=
  .ofList (List.replicate n ' ')

/-- A text with so many blanks in front of each of its lines but the first. -/
def indented (width : Nat) (s : String) : String :=
  .ofList (List.intercalate ('\n' :: List.replicate width ' ') (s.toList.splitOn '\n'))

theorem alignLeft_eq (width : Nat) (s : String) :
    alignLeft width s = s ++ blanks (width - s.length) := by
  rw [alignLeft, blanks, String.ofList_append, String.ofList_toList, spaces]

theorem alignRight_eq (width : Nat) (s : String) :
    alignRight width s = blanks (width - s.length) ++ s := by
  rw [alignRight, blanks, String.ofList_append, String.ofList_toList, spaces]

/-- **The lines of a text** are moved to the right by cutting it at the ends of lines, and joining
the lines again with blanks in front. -/
theorem hanging_eq_indented (width : Nat) (s : String) : hanging width s = indented width s := by
  rw [hanging, indented, spaces]
  congr 1
  induction s.toList with
  | nil => rfl
  | cons c cs ih =>
      obtain ⟨line, lines, hcut⟩ := List.exists_cons_of_ne_nil (List.splitOnP_ne_nil (· == '\n') cs)
      rw [List.flatMap_cons, ih, List.splitOn_eq_splitOnP, List.splitOn_eq_splitOnP,
        List.splitOnP_cons_eq_if_modifyHead, hcut]
      by_cases hend : c = '\n'
      · rw [if_pos hend, if_pos (beq_iff_eq.mpr hend), List.intercalate_cons_cons, List.nil_append]
      · rw [if_neg hend, if_neg (mt beq_iff_eq.mp hend)]
        cases lines <;> rfl

end Text

variable {manifest : Element} {settings : Settings} {failure : Failure}

/-! ### Sorts of operations -/

namespace Operation

/-- An operation **has no place** in a manifest if its selector leads nowhere there. -/
def HasNoPlace (operation : Operation) (manifest : Element) : Prop :=
  ∀ target, operation.resolve manifest ≠ .ok target

/-- An operation **lacks its attribute** if it removes or replaces one that its owner has not. -/
def LacksAttribute (operation : Operation) (manifest : Element) : Prop :=
  (operation.kind = .remove ∨ operation.kind = .replace) ∧
    ∃ target, operation.resolve manifest = .ok target ∧ target.isAttribute = true ∧
      target.leaf.element.attribute? target.name = none

/-- An operation after a number: the number in a column of three places, the kind in one of seven,
the selector, and the hint if there is one. -/
def numbered (operation : Operation) (number : Nat) : String :=
  Text.blanks (3 - (toString number).length) ++ toString number ++ ". " ++
    (operation.kind.label ++ Text.blanks (7 - operation.kind.label.length) ++ " " ++
      operation.selector.render ++ operation.position.elim "" (" pos=" ++ ·))

/-- What is **written about an operation** with a number: on the standard error if it has no place,
and else on the standard output with the element that was found. The sort is told by the mark in
front. -/
inductive IsReport (manifest : Element) (operation : Operation) (number : Nat) : Output → Prop
  | no_place (h : operation.HasNoPlace manifest) :
      IsReport manifest operation number
        (.err ("✗ " ++ operation.numbered number ++ "\n" ++
          ("  CONFLICT: selector matched no element\n" ++
            "  Possible causes:\n" ++
            "    - Patch is stale (manifest already moved past it)\n" ++
            "    - Patch was generated for a different manifest\n")))
  | no_attribute {target : Target} (htarget : operation.resolve manifest = .ok target)
      (h : operation.LacksAttribute manifest) :
      IsReport manifest operation number
        (.out ("⊙ " ++ operation.numbered number ++ "\n       attribute '" ++ target.name ++
          "' not present on " ++ target.leaf.element.describe ++ "\n"))
  | resolved {target : Target} (htarget : operation.resolve manifest = .ok target)
      (h : ¬ operation.LacksAttribute manifest) :
      IsReport manifest operation number
        (.out ("✓ " ++ operation.numbered number ++ "\n       target: " ++
          target.target.element.describe ++ "\n"))

variable {operation : Operation}

theorem verdict_of_error {miss : Miss} (h : operation.resolve manifest = .error miss) :
    operation.verdict manifest = .notFound := by
  rw [verdict, h]

theorem verdict_of_ok {target : Target} (h : operation.resolve manifest = .ok target) :
    operation.verdict manifest =
      if target.isAttribute && operation.kind != .add && target.attributeValue?.isNone then
        .missingAttribute target
      else .resolved target := by
  rw [verdict, h]

theorem isNotFound_verdict_iff :
    (operation.verdict manifest).isNotFound = true ↔ operation.HasNoPlace manifest := by
  cases h : operation.resolve manifest with
  | error miss => simp [verdict_of_error h, Verdict.isNotFound, HasNoPlace, h]
  | ok target =>
      rw [verdict_of_ok h]
      split_ifs <;> simp [Verdict.isNotFound, HasNoPlace, h]

/-- An attribute is missing from its owner, and the operation does not add it. -/
theorem isNone_attributeValue?_iff {target : Target} :
    (target.isAttribute && operation.kind != .add && target.attributeValue?.isNone) = true ↔
      (operation.kind = .remove ∨ operation.kind = .replace) ∧ target.isAttribute = true ∧
        target.leaf.element.attribute? target.name = none := by
  cases hattribute : target.isAttribute with
  | false => simp
  | true => cases operation.kind <;> simp [Target.attributeValue?, hattribute]

/-- The sort of an operation with a place is told by what was found there. -/
theorem lacksAttribute_iff_of_ok {target : Target} (h : operation.resolve manifest = .ok target) :
    operation.LacksAttribute manifest ↔
      (target.isAttribute && operation.kind != .add && target.attributeValue?.isNone) = true := by
  rw [LacksAttribute, isNone_attributeValue?_iff]
  simp only [h, Except.ok.injEq, exists_eq_left']

theorem isMissingAttribute_verdict_iff :
    (operation.verdict manifest).isMissingAttribute = true ↔
      operation.LacksAttribute manifest := by
  cases h : operation.resolve manifest with
  | error miss => simp [verdict_of_error h, Verdict.isMissingAttribute, LacksAttribute, h]
  | ok target =>
      rw [verdict_of_ok h, lacksAttribute_iff_of_ok h]
      split_ifs with hmissing <;> simp [Verdict.isMissingAttribute, hmissing]

theorem isResolved_verdict_iff :
    (operation.verdict manifest).isResolved = true ↔
      ¬ operation.HasNoPlace manifest ∧ ¬ operation.LacksAttribute manifest := by
  rw [← isNotFound_verdict_iff, ← isMissingAttribute_verdict_iff]
  cases operation.verdict manifest <;>
    simp [Verdict.isResolved, Verdict.isNotFound, Verdict.isMissingAttribute]

instance (operation : Operation) (manifest : Element) :
    Decidable (operation.HasNoPlace manifest) :=
  decidable_of_iff _ isNotFound_verdict_iff

instance (operation : Operation) (manifest : Element) :
    Decidable (operation.LacksAttribute manifest) :=
  decidable_of_iff _ isMissingAttribute_verdict_iff

/-- An operation is reported in one way. -/
theorem IsReport.unique {number : Nat} {report report' : Output}
    (h : operation.IsReport manifest number report)
    (h' : operation.IsReport manifest number report') : report = report' := by
  cases h with
  | no_place h =>
      cases h' with
      | no_place => rfl
      | no_attribute htarget' | resolved htarget' => exact absurd htarget' (h _)
  | no_attribute htarget h =>
      cases h' with
      | no_place h' => exact absurd htarget (h' _)
      | no_attribute htarget' =>
          obtain rfl := Except.ok.inj (htarget.symm.trans htarget')
          rfl
      | resolved _ h' => exact absurd h h'
  | resolved htarget h =>
      cases h' with
      | no_place h' => exact absurd htarget (h' _)
      | no_attribute _ h' => exact absurd h' h
      | resolved htarget' =>
          obtain rfl := Except.ok.inj (htarget.symm.trans htarget')
          rfl

/-- The program writes an operation after its number so. -/
theorem describeAt_eq_numbered (operation : Operation) (index : Nat) :
    operation.describeAt index = operation.numbered (index + 1) := by
  rw [describeAt, numbered, Text.alignRight_eq, describe, Text.alignLeft_eq]
  cases operation.position <;> rfl

/-- **The report of a verdict** is what is written about the operation with the number after the
index. -/
theorem isReport_report_verdict (operation : Operation) (manifest : Element) (index : Nat) :
    operation.IsReport manifest (index + 1)
      ((operation.verdict manifest).report (operation.describeAt index)) := by
  rw [describeAt_eq_numbered]
  cases h : operation.resolve manifest with
  | error miss =>
      rw [verdict_of_error h]
      exact .no_place fun target htarget => absurd (h.symm.trans htarget) nofun
  | ok target =>
      rw [verdict_of_ok h]
      split_ifs with hmissing
      · exact .no_attribute h ((lacksAttribute_iff_of_ok h).mpr hmissing)
      · exact .resolved h (mt (lacksAttribute_iff_of_ok h).mp hmissing)

end Operation

/-! ### Warnings and failures -/

/-- What is **written about the root** of a manifest: a warning if it has not the name that the
settings expect. -/
inductive Settings.Warns (settings : Settings) (manifest : Element) : String → Prop
  | expected (h : manifest.name = settings.root) : Warns settings manifest ""
  | unexpected (h : manifest.name ≠ settings.root) :
      Warns settings manifest ("Warning: manifest root is <" ++ manifest.name ++
        ">, expected <" ++ settings.root ++ ">\n")

/-- **The warning** is what the standard error has of the pieces that are written. -/
theorem Settings.warns_iff {warning : String} :
    settings.Warns manifest warning ↔
      warning = String.join ((settings.rootWarning manifest).map Output.errText) := by
  rw [Settings.rootWarning]
  split_ifs with h
  · refine ⟨fun hwarns => ?_, fun heq => heq ▸ .expected h⟩
    cases hwarns with
    | expected => rfl
    | unexpected hne => exact absurd h hne
  · rw [List.map_singleton, String.join_cons, String.join_nil, String.append_empty]
    refine ⟨fun hwarns => ?_, fun heq => heq ▸ .unexpected h⟩
    cases hwarns with
    | expected heq => exact absurd heq h
    | unexpected => rfl

/-- A warning is not on the standard output. -/
theorem Settings.join_rootWarning_outText (settings : Settings) (manifest : Element) :
    String.join ((settings.rootWarning manifest).map Output.outText) = "" := by
  rw [Settings.rootWarning]
  split_ifs <;> rfl

/-- What an error in a document **says**. -/
inductive DocumentError.Says : DocumentError → String → Prop
  | not_json : Says .notJson "invalid JSON document"
  | no_single_root :
      Says .noSingleRoot "document must be an object with exactly one root element key"
  | unexpected_value (element : String) (found : Json.Kind) :
      Says (.unexpectedValue element found)
        ("unexpected " ++ found.label ++ " while reading element '" ++ element ++ "'")
  | unordered_children (element : String) (tags : List String) :
      Says (.unorderedChildren element tags)
        ("children of '" ++ element ++ "' (" ++ ", ".intercalate tags ++
          ") carry no document order; expected a __children list")

theorem DocumentError.says_iff {error : DocumentError} {message : String} :
    error.Says message ↔ error.message = message := by
  refine ⟨fun h => by cases h <;> rfl, ?_⟩
  rintro rfl
  cases error <;> constructor

/-- What an error in a selector **says**. -/
inductive SelectorError.Says : SelectorError → String → Prop
  | empty (selector : String) :
      Says (.empty selector) ("selector '" ++ selector ++ "' contains no path components")
  | malformed (selector component : String) (fault : Selector.Fault) :
      Says (.malformed selector component fault)
        ("malformed selector component '" ++ component ++ "' in '" ++ selector ++ "': " ++
          fault.message)
  | attribute_not_last (selector component : String) :
      Says (.attributeNotLast selector component)
        ("attribute reference '" ++ component ++ "' in '" ++ selector ++
          "' must be the final component")

theorem SelectorError.says_iff {error : SelectorError} {message : String} :
    error.Says message ↔ error.message = message := by
  refine ⟨fun h => by cases h <;> rfl, ?_⟩
  rintro rfl
  cases error <;> constructor

/-- What an issue of the settings **says**. -/
inductive Settings.Issue.Says : Issue → String → Prop
  | blank_root : Says .blankRoot "config missing required field 'document.root'"
  | reserved_prefix (attributePrefix : String) :
      Says (.reservedPrefix attributePrefix)
        ("invalid value for 'document.attribute_prefix': '" ++ attributePrefix ++
          "' collides with parser bookkeeping keys")
  | blank_in_prefix :
      Says .blankInPrefix "invalid value for 'document.attribute_prefix': whitespace not allowed"

theorem Settings.Issue.says_iff {issue : Issue} {message : String} :
    issue.Says message ↔ issue.message = message := by
  refine ⟨fun h => by cases h <;> rfl, ?_⟩
  rintro rfl
  cases issue <;> constructor

/-- Several issues say what each of them says. -/
theorem Settings.Issue.forall₂_says_iff {issues : List Issue} {messages : List String} :
    List.Forall₂ Says issues messages ↔ issues.map message = messages := by
  have hwording : Says = fun issue message => issue.message = message :=
    funext₂ fun _ _ => propext says_iff
  rw [hwording, ← List.forall₂_map_left_iff, List.forall₂_eq_eq_eq]

/-- The **causes** of an error in the document under a path, the nearest first. -/
inductive LoadError.HasCauses (path : String) : LoadError → List String → Prop
  | unreadable (fault : ReadFault) :
      HasCauses path (.unreadable fault)
        ["failed to read document from " ++ path ++ ": " ++ fault.message, fault.message]
  | invalid {error : DocumentError} {message : String} (h : error.Says message) :
      HasCauses path (.invalid error) [message]

theorem LoadError.exists_hasCauses (path : String) (error : LoadError) :
    ∃ causes, error.HasCauses path causes := by
  cases error with
  | unreadable fault => exact ⟨_, .unreadable fault⟩
  | invalid error => exact ⟨_, .invalid (DocumentError.says_iff.mpr rfl)⟩

/-- What a failure of a check **says**: what has failed, and the causes, the nearest first. -/
inductive Failure.Says : Failure → String → List String → Prop
  | settings_unreadable (path : String) (fault : ReadFault) :
      Says (.unreadableSettings path fault)
        ("failed to read config from " ++ path ++ ": " ++ fault.message) [fault.message]
  | settings_unparsed (path : String) :
      Says (.invalidSettings path .unreadable)
        (path ++ ": " ++ "failed to parse config TOML") ["failed to parse config TOML"]
  | settings_refused (path : String) {issues : List Settings.Issue} {messages : List String}
      (h : List.Forall₂ Settings.Issue.Says issues messages) :
      Says (.invalidSettings path (.invalid issues))
        (path ++ ": " ++ ("invalid config: " ++ "; ".intercalate messages))
        ["invalid config: " ++ "; ".intercalate messages, "; ".intercalate messages]
  | manifest (path : String) {error : LoadError} {causes : List String}
      (h : error.HasCauses path causes) :
      Says (.manifest path error) ("failed to load manifest " ++ path) causes
  | patch (path : String) {error : LoadError} {causes : List String}
      (h : error.HasCauses path causes) :
      Says (.patch path error) ("failed to load patch " ++ path) causes
  | extraction_selector (path : String) (index : Nat) {source : SelectorError} {message : String}
      (h : source.Says message) :
      Says (.extraction path (.malformedSelector index source))
        ("failed to extract operations from " ++ path)
        ["patch operation " ++ toString index ++ " has a malformed selector: " ++ message, message]
  | extraction_kind (path kind : String) :
      Says (.extraction path (.unsupportedKind kind))
        ("failed to extract operations from " ++ path)
        ["unsupported patch operation kind '" ++ kind ++ "'"]

/-- How a failure is **reported**: what it says, and in a paragraph below the causes, which are
numbered if there are two. -/
inductive Failure.IsReport (failure : Failure) : String → Prop
  | one_cause {message cause : String} (h : failure.Says message [cause]) :
      IsReport failure
        ("Error: " ++ message ++ ("\n\nCaused by:\n    " ++ Text.indented 4 cause) ++ "\n")
  | two_causes {message first second : String} (h : failure.Says message [first, second]) :
      IsReport failure
        ("Error: " ++ message ++ ("\n\nCaused by:" ++ ("\n    0: " ++ Text.indented 7 first ++
          ("\n    1: " ++ Text.indented 7 second))) ++ "\n")

namespace Failure

variable {message : String} {causes : List String}

/-- A failure says its message, and its causes are those that it says. -/
theorem Says.eq (h : failure.Says message causes) :
    failure.message = message ∧ failure.causes = causes := by
  cases h with
  | settings_unreadable | settings_unparsed | extraction_kind => exact ⟨rfl, rfl⟩
  | settings_refused _ h =>
      obtain rfl := Settings.Issue.forall₂_says_iff.mp h
      exact ⟨rfl, rfl⟩
  | extraction_selector _ _ h =>
      obtain rfl := SelectorError.says_iff.mp h
      exact ⟨rfl, rfl⟩
  | manifest _ h | patch _ h =>
      cases h with
      | unreadable => exact ⟨rfl, rfl⟩
      | invalid h =>
          obtain rfl := DocumentError.says_iff.mp h
          exact ⟨rfl, rfl⟩

/-- A failure of a check has one cause or two. -/
theorem Says.causes_cases (h : failure.Says message causes) :
    (∃ cause, causes = [cause]) ∨ ∃ first second, causes = [first, second] := by
  cases h with
  | settings_unreadable | settings_unparsed | extraction_kind => exact .inl ⟨_, rfl⟩
  | settings_refused | extraction_selector => exact .inr ⟨_, _, rfl⟩
  | manifest _ h | patch _ h =>
      cases h with
      | unreadable => exact .inr ⟨_, _, rfl⟩
      | invalid => exact .inl ⟨_, rfl⟩

theorem causesReport_singleton (cause : String) :
    causesReport [cause] = "\n\nCaused by:\n    " ++ Text.indented 4 cause := by
  change _ ++ Text.hanging 4 cause = _
  rw [Text.hanging_eq_indented]

/-- Two causes are numbered from zero. -/
theorem causesReport_pair (first second : String) :
    causesReport [first, second] = "\n\nCaused by:" ++
      ("\n    0: " ++ Text.indented 7 first ++ ("\n    1: " ++ Text.indented 7 second)) := by
  change _ ++ String.join [numberedCause 0 first, numberedCause 1 second] = _
  rw [String.join_cons, String.join_cons, String.join_nil, String.append_empty, numberedCause,
    numberedCause, Text.hanging_eq_indented, Text.hanging_eq_indented]
  rfl

/-- **The report of a failure** says what has failed. -/
theorem Says.isReport_report (h : failure.Says message causes) :
    failure.IsReport failure.report := by
  obtain ⟨hmessage, hcauses⟩ := h.eq
  rw [report, hmessage, hcauses]
  rcases h.causes_cases with ⟨cause, rfl⟩ | ⟨first, second, rfl⟩
  · rw [causesReport_singleton]
    exact .one_cause h
  · rw [causesReport_pair]
    exact .two_causes h

end Failure

end ManifestPatch
