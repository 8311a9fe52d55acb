import LinkIndex.Proofs.Json.RoundTrip
import LinkIndex.Proofs.Store.Overlay
import LinkIndex.Report.Format
import LinkIndex.Store.Load

/-!
Recorded data as JSON text. The text is read back as the same data, with all keys and
all lists in their order: a table becomes an object, whose members keep their order as
long as their names are different, and the three names under which the tables are
written are among those under which they are looked for.
-/

namespace LinkIndex

/-! ### Checks that find no fault -/

theorem Checked.all_eq_ok {α : Type} {checks : List (Checked α)} {values : List α}
    (h : checks = values.map .ok) : Checked.all checks = .ok values := by
  subst h
  induction values with
  | nil => rfl
  | cons v values ih => rw [List.map_cons, all, ih, both]

/-! ### JSON values as settings -/

namespace Setting

theorem ofElements_eq_map (elements : List Json) : ofElements elements = elements.map ofJson := by
  induction elements with
  | nil => rfl
  | cons v rest ih => rw [ofElements, ih, List.map_cons]

theorem ofMembers_eq_map (members : List (String × Json)) :
    ofMembers members = members.map fun p => (p.1, ofJson p.2) := by
  induction members with
  | nil => rfl
  | cons p rest ih => rw [ofMembers, ih, List.map_cons]

end Setting

namespace LinkData

/-- In each of the tables every key stands once. -/
structure IsKeyed (d : LinkData) : Prop where
  headings : d.headings.keys.Nodup
  internal : d.internal.keys.Nodup
  external : d.external.keys.Nodup

instance (d : LinkData) : Decidable d.IsKeyed :=
  decidable_of_iff (d.headings.keys.Nodup ∧ d.internal.keys.Nodup ∧ d.external.keys.Nodup)
    ⟨fun ⟨hh, hi, he⟩ => ⟨hh, hi, he⟩, fun ⟨hh, hi, he⟩ => ⟨hh, hi, he⟩⟩

/-! ### Writing and reading -/

theorem texts_ofJson (values : List String) :
    texts (Setting.ofJson (.arr (values.map .str))) = .ok values := by
  rw [Setting.ofJson, Setting.ofElements_eq_map, texts]
  refine Checked.all_eq_ok ?_
  apply List.ext_getElem
  · simp
  · intro i h₁ h₂
    simp [Setting.ofJson]

theorem lists_ofJson (m : Assoc String (List String)) :
    lists (Setting.ofJson (listsJson m)) = .ok m := by
  rw [listsJson, Setting.ofJson, Setting.ofMembers_eq_map, List.map_map, lists]
  refine Checked.all_eq_ok ?_
  rw [List.map_map]
  refine List.map_congr_left fun p _ => ?_
  simp only [Function.comp_apply, texts_ofJson]
  rfl

/-- Data that was written as JSON is read as the same data. -/
theorem ofSetting_toJson (d : LinkData) : ofSetting (Setting.ofJson d.toJson) = .ok d := by
  have hmember {entries : Assoc String Setting} {name : String} {others : List String}
      {m : Assoc String (List String)}
      (hget : entries.get? name = some (Setting.ofJson (listsJson m))) :
      member entries (name :: others) = .ok m := by
    rw [member, hget]
    simp only [lists_ofJson]
    rfl
  rw [toJson, Setting.ofJson, Setting.ofMembers_eq_map, ofSetting, hmember rfl, hmember rfl,
    hmember rfl]
  rfl

/-- Recorded data is made of texts. -/
theorem IsKeyed.isTextual {d : LinkData} (hd : d.IsKeyed) : d.toJson.IsTextual := by
  have hlists {m : Assoc String (List String)} (hm : m.keys.Nodup) :
      (listsJson m).IsTextual := by
    have hkeys : Assoc.keys (m.map fun p => (p.1, Json.arr (p.2.map .str))) = m.keys := by
      rw [Assoc.keys, List.map_map]
      rfl
    refine .obj (hkeys.symm ▸ hm) fun p hp => ?_
    obtain ⟨q, -, rfl⟩ := List.mem_map.1 hp
    refine .arr fun v hv => ?_
    obtain ⟨s, -, rfl⟩ := List.mem_map.1 hv
    exact .str s
  have hnames : ["headings", "internalLinks", "externalLinks"].Nodup := by decide
  refine .obj hnames fun p hp => ?_
  obtain rfl | rfl | rfl := by simpa using hp
  · exact hlists hd.headings
  · exact hlists hd.internal
  · exact hlists hd.external

/-- The text of recorded data, whatever blanks stand behind it, is JSON of the same
data. -/
theorem IsKeyed.parse_toJson {d : LinkData} (hd : d.IsKeyed) {blanks : List Char}
    (hblanks : ∀ c ∈ blanks, Json.isWhite c = true) :
    ∃ v, Json.parse (d.toJson.indented.toList ++ blanks) = .ok v ∧
      ofSetting (Setting.ofJson v) = .ok d :=
  ⟨d.toJson, hd.isTextual.parse_indented hblanks, ofSetting_toJson d⟩

end LinkData

/-! ### Data of stores -/

/-- What a store holds has every key once. -/
theorem Store.Agrees.isKeyed {h : List Store.Entry} {d : LinkData} (hd : Store.Agrees h d) :
    d.IsKeyed where
  headings := hd.headings.1 ▸ History.nodup_slugs h
  internal := hd.internal.1 ▸ History.nodup_slugs h
  external := hd.external.nodup_keys

end LinkIndex
