import ManifestPatch.Proofs.Document.Content
import ManifestPatch.Selector.Name
import ManifestPatch.Settings.Basic

/-!
# Attributes under an Accepted Prefix

Settings are refused if their prefix begins like a key of bookkeeping, since the attributes that it
marks would be passed over. The prefix is looked at by itself, but a key is the prefix with a name
after it, and a name may begin with an underscore. So there is one accepted prefix under which keys
of attributes are bookkeeping: one underscore, before names that begin with another. Every other
name that a selector can ask for is read under every accepted prefix.

## Main results

* `Settings.attribute?_of_accepted`: what is read of an attribute under an accepted prefix.
* `Settings.attribute?_lost`: an attribute under an accepted prefix may be lost.
-/

namespace ManifestPatch.Settings

open Document (arrayEnding childrenKey readElement)

variable {settings : Settings} {n v name : String} {fields : List (String × Json)} {e : Element}

/-- **What is read of an attribute**, where the settings are accepted and mark attributes by a
prefix that is not empty: its value, from every object that holds it under its key and has neither
a list of children nor an array to hide it; but nothing if the prefix is one underscore and the
name begins with another, since the key is then passed over as bookkeeping. -/
theorem attribute?_of_accepted (haccepted : settings.issues = [])
    (hmarks : settings.attributePrefix ≠ "")
    (hend : Text.endsWith arrayEnding (settings.attributePrefix ++ n) = false)
    (h : Keyed.Ascending fields) (hunlisted : fields.lookup childrenKey = none)
    (hfield : fields.lookup (settings.attributePrefix ++ n) = some (.string v))
    (hsingle : fields.lookup (settings.attributePrefix ++ n ++ arrayEnding) = none)
    (hread : readElement settings.manifestOptions.attributePrefix name (.object fields) = .ok e) :
    e.attribute? n =
      if settings.attributePrefix = "_" ∧ Text.startsWith "_" n = true then none else some v := by
  have hbook := Document.isBookkeeping_append_iff (t := n) (not_isBookkeeping_of_issues haccepted)
    hmarks
  rw [manifestOptions] at hread
  split_ifs with hjoined
  · refine Option.eq_none_iff_forall_ne_some.mpr fun text htext => ?_
    have hplain := ((Document.attribute?_eq_some_iff h hread).mp htext).2.1
    exact absurd (hplain.symm.trans (hbook.mpr hjoined)) nofun
  · rw [Document.attribute?_eq_some_iff h hread]
    have hplain : Document.isBookkeeping (settings.attributePrefix ++ n) = false := by
      rw [← Bool.not_eq_true, hbook]
      exact hjoined
    exact ⟨Document.isShadowed_eq_false hunlisted hsingle, hplain, hend, .string v, hfield, rfl⟩

/-- Under the prefix of one underscore, a name that begins with a letter is read, and beside it one
that begins with an underscore is not. -/
theorem attribute?_of_accepted_underscore :
    ({ attributePrefix := "_" } : Settings).issues = [] ∧
      ∃ e, readElement "_" "Set"
          (.object [("__x", .string "1"), ("_id", .string "2"), ("v", .string "3")]) = .ok e ∧
        e.attribute? "id" = some "2" ∧ e.attribute? "_x" = none := by
  let fields : List (String × Json) :=
    [("__x", .string "1"), ("_id", .string "2"), ("v", .string "3")]
  have haccepted : ({ attributePrefix := "_" } : Settings).issues = [] := by decide
  have hchild : readElement "_" "v" (.string "3") = .ok { name := "v", text := some "3" } :=
    Document.readElement_of_scalar _ _ nofun nofun
  have hread : readElement "_" "Set" (.object fields) = .ok
      { name := "Set", attributes := [("id", "2")],
        children := [{ name := "v", text := some "3" }] } :=
    Document.readElement_object_eq_ok_iff.mpr ⟨_, List.Forall₂.cons hchild List.Forall₂.nil, rfl⟩
  have hascending : Keyed.Ascending fields := by decide
  have hid := attribute?_of_accepted (n := "id") haccepted (by decide) rfl hascending rfl rfl rfl
    hread
  have hx := attribute?_of_accepted (n := "_x") haccepted (by decide) rfl hascending rfl rfl rfl
    hread
  exact ⟨haccepted, _, hread, hid, hx⟩

/-- **An attribute under an accepted prefix may be lost**: the settings are accepted, a selector can
ask for the name, the object holds the value under its key, and the element does not have it. -/
theorem attribute?_lost :
    ({ attributePrefix := "_" } : Settings).issues = [] ∧
      Selector.isName "_x".toList = true ∧ Text.endsWith arrayEnding ("_" ++ "_x") = false ∧
      [("__x", Json.string "1")].lookup ("_" ++ "_x") = some (.string "1") ∧
      [("__x", Json.string "1")].lookup childrenKey = none ∧
      [("__x", Json.string "1")].lookup ("_" ++ "_x" ++ arrayEnding) = none ∧
      ∃ e, readElement ({ attributePrefix := "_" } : Settings).manifestOptions.attributePrefix
          "Set" (.object [("__x", .string "1")]) = .ok e ∧ e.attribute? "_x" ≠ some "1" :=
  ⟨by decide, by decide, rfl, rfl, rfl, rfl, { name := "Set" },
    Document.readElement_object_of_nodes_eq_nil _ _ rfl, nofun⟩

end ManifestPatch.Settings
