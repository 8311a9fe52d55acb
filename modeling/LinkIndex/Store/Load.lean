import LinkIndex.Settings.Issue
import LinkIndex.Store

/-!
Recorded data that is read from outside. Each of the three tables has a name in
two spellings; unknown names are passed over.
-/

namespace LinkIndex.LinkData

def texts : Setting → Checked (List String)
  | .list items => Checked.all (items.zipIdx.map fun (v, i) =>
      match v with
      | .text s => .ok s
      | _ => Checked.under (.index i) (.fault .stringType))
  | _ => .fault .listType

def lists : Setting → Checked (Assoc String (List String))
  | .table entries => Checked.all (entries.map fun (k, v) =>
      (Checked.under (.key k) (texts v)).map (k, ·))
  | _ => .fault .dictType

/-- The table under the first of the names that is set; empty where none is. -/
def member (entries : Assoc String Setting) : List String → Checked (Assoc String (List String))
  | [] => .ok []
  | name :: others =>
    match entries.get? name with
    | some v => Checked.under (.key name) (lists v)
    | none => member entries others

def ofSetting : Setting → Checked LinkData
  | .table entries =>
    let links := Checked.both Prod.mk (member entries ["internalLinks", "internal_links"])
      (member entries ["externalLinks", "external_links"])
    Checked.both (fun h l => LinkData.mk h l.1 l.2) (member entries ["headings"]) links
  | _ => .fault .modelType

end LinkIndex.LinkData
