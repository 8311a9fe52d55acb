import LinkIndex.Proofs.Extract.Urls

/-!
The headings of a document with and without generated anchors.

A document has a list of anchors, whatever the options are: identifiers that
are written in it, and the texts of the headings that have none. Where anchors
are generated, the texts go through one slugger in document order and every
slug takes the place of its text; where they are not, the texts are left out.
Written identifiers never reach the slugger. `Anchor.entries` says both cases
at once, so that one induction over the walk serves both.
-/

namespace LinkIndex

/-! ### Texts through a slugger -/

namespace Slugger

/-- The slugs that a slugger returns for texts, one after the other. -/
def slugs (s : Slugger) : List String → List String
  | [] => []
  | text :: rest => (s.slug text).1 :: (s.slug text).2.slugs rest

/-- A slugger when texts have gone through it. -/
def after (s : Slugger) (texts : List String) : Slugger :=
  texts.foldl (fun s text => (s.slug text).2) s

theorem slugs_append (s : Slugger) (texts more : List String) :
    s.slugs (texts ++ more) = s.slugs texts ++ (s.after texts).slugs more := by
  induction texts generalizing s with
  | nil => rfl
  | cons text rest ih => simp [slugs, after, ih]

end Slugger

/-! ### Anchors -/

/-- An anchor of a document: an identifier that is written in it, or one that
is generated of a text. -/
inductive Anchor
  | written (id : String)
  | generated (text : String)
  deriving DecidableEq, Repr

namespace Anchor

def value : Anchor → String
  | .written id => id
  | .generated text => text

def isWritten : Anchor → Bool
  | .written _ => true
  | .generated _ => false

def generated? : Anchor → Option String
  | .written _ => none
  | .generated text => some text

def texts (anchors : List Anchor) : List String :=
  anchors.filterMap generated?

/-- Puts slugs in the places of the texts, in order. -/
def withSlugs : List Anchor → List String → List Anchor
  | .written id :: rest, slugs => .written id :: withSlugs rest slugs
  | .generated _ :: rest, slug :: slugs => .generated slug :: withSlugs rest slugs
  | _, _ => []

@[simp] theorem texts_append (as bs : List Anchor) : texts (as ++ bs) = texts as ++ texts bs :=
  List.filterMap_append

@[simp] theorem texts_map_written (ids : List String) : texts (ids.map written) = [] := by
  simp [texts, List.filterMap_map, Function.comp_def, generated?]

/-- There is one slug for each text among the anchors. -/
inductive Fits : List Anchor → List String → Prop
  | nil : Fits [] []
  | written (id : String) {rest : List Anchor} {slugs : List String} (h : Fits rest slugs) :
      Fits (.written id :: rest) slugs
  | generated (text slug : String) {rest : List Anchor} {slugs : List String}
      (h : Fits rest slugs) : Fits (.generated text :: rest) (slug :: slugs)

theorem fits_slugs (s : Slugger) (anchors : List Anchor) :
    Fits anchors (s.slugs (texts anchors)) := by
  induction anchors generalizing s with
  | nil => exact .nil
  | cons a rest ih =>
      cases a with
      | written id => exact .written id (ih s)
      | generated text => exact .generated text (s.slug text).1 (ih (s.slug text).2)

theorem withSlugs_append {as bs : List Anchor} {slugs more : List String} (h : Fits as slugs) :
    withSlugs (as ++ bs) (slugs ++ more) = withSlugs as slugs ++ withSlugs bs more := by
  induction h with
  | nil => rfl
  | written id h ih => exact congrArg (Anchor.written id :: ·) ih
  | generated text slug h ih => exact congrArg (Anchor.generated slug :: ·) ih

theorem texts_withSlugs {anchors : List Anchor} {slugs : List String} (h : Fits anchors slugs) :
    texts (withSlugs anchors slugs) = slugs := by
  induction h with
  | nil => rfl
  | written id h ih => exact ih
  | generated text slug h ih => exact congrArg (slug :: ·) ih

/-- Slugs take the places of texts and leave the written identifiers alone. -/
theorem filter_isWritten_withSlugs {anchors : List Anchor} {slugs : List String}
    (h : Fits anchors slugs) :
    (withSlugs anchors slugs).filter isWritten = anchors.filter isWritten := by
  induction h with
  | nil => rfl
  | written id h ih => exact congrArg (Anchor.written id :: ·) ih
  | generated text slug h ih => exact ih

/-- The entries that anchors make in the list of headings, with a slugger at
hand or without one. -/
def entries : Option Slugger → List Anchor → List Anchor
  | some s, anchors => withSlugs anchors (s.slugs (texts anchors))
  | none, anchors => anchors.filter isWritten

def sluggerAfter (slugger : Option Slugger) (anchors : List Anchor) : Option Slugger :=
  slugger.map (·.after (texts anchors))

theorem entries_append (slugger : Option Slugger) (as bs : List Anchor) :
    entries slugger (as ++ bs) =
      entries slugger as ++ entries (sluggerAfter slugger as) bs := by
  cases slugger with
  | none => exact List.filter_append ..
  | some s =>
      simp only [entries, sluggerAfter, Option.map_some, texts_append, Slugger.slugs_append]
      exact withSlugs_append (fits_slugs s as)

theorem sluggerAfter_append (slugger : Option Slugger) (as bs : List Anchor) :
    sluggerAfter slugger (as ++ bs) = sluggerAfter (sluggerAfter slugger as) bs := by
  simp [sluggerAfter, Slugger.after, List.foldl_append, Function.comp_def]

@[simp] theorem sluggerAfter_nil (slugger : Option Slugger) :
    sluggerAfter slugger [] = slugger := by
  cases slugger <;> rfl

/-- Written identifiers are entered as they are and leave the slugger alone. -/
theorem entries_written (slugger : Option Slugger) (ids : List String) :
    entries slugger (ids.map written) = ids.map written := by
  cases slugger with
  | none => simp [entries, isWritten]
  | some s =>
      simp only [entries, texts_map_written, Slugger.slugs]
      induction ids with
      | nil => rfl
      | cons id rest ih => exact congrArg (written id :: ·) ih

theorem sluggerAfter_written (slugger : Option Slugger) (ids : List String) :
    sluggerAfter slugger (ids.map written) = slugger := by
  simp only [sluggerAfter, texts_map_written]
  exact sluggerAfter_nil slugger

end Anchor

/-! ### The anchors of a node -/

/-- The identifier, if that is what was found. -/
def Html.Target.id? : Html.Target → Option String
  | .id value => some value
  | .href _ => none

namespace Tree

/-- The anchor of a heading: its identifier, unless that is empty, or else one
that is generated of its text, unless that is empty too. -/
def headingAnchor (id : Option String) (text : String) : List Anchor :=
  match id.filter (· ≠ "") with
  | some id => [.written id]
  | none => if text = "" then [] else [.generated text]

/-- The anchors of a node, its children aside. -/
def ownAnchors (t : Tree) : List Anchor :=
  match t with
  | .element (.heading _ id) _ => headingAnchor id t.flatten
  | .element (.jsx _ _ attributes) _ => (textAttributes attributes "id").map .written
  | .leaf (.html value) => ((Html.targets value).filterMap Html.Target.id?).map .written
  | _ => []

/-- The anchors of a document, in document order. -/
def anchors (t : Tree) : List Anchor :=
  t.preorder.flatMap ownAnchors

end Tree

namespace Links

@[simp] theorem headings_addLink (links : Links) (url : String) :
    (links.addLink url).headings = links.headings := by
  cases h : classify url <;> simp [addLink, h]

@[simp] theorem headings_addLinks (links : Links) (urls : List String) :
    (links.addLinks urls).headings = links.headings := by
  have hstep : ∀ (links : Links) url, (links.addLink url).headings = links.headings ++ [] :=
    fun links url => by simp
  rw [addLinks, foldl_appends headings hstep, List.flatMap_eq_nil_iff.2 (by simp),
    List.append_nil]

theorem headings_addHeadings (links : Links) (ids : List String) :
    (links.addHeadings ids).headings = links.headings ++ ids := by
  have hstep : ∀ (links : Links) id, (links.addHeading id).headings = links.headings ++ [id] :=
    fun links id => rfl
  rw [addHeadings, foldl_appends headings hstep, List.flatMap_singleton']

theorem headings_addTarget (links : Links) (target : Html.Target) :
    (addTarget links target).headings = links.headings ++ target.id?.toList := by
  cases target with
  | href value => simp [addTarget, Html.Target.id?]
  | id value => rfl

theorem headings_addTargets (links : Links) (targets : List Html.Target) :
    (targets.foldl addTarget links).headings =
      links.headings ++ targets.filterMap Html.Target.id? := by
  rw [foldl_appends headings headings_addTarget, List.filterMap_eq_flatMap_toList]

end Links

namespace Visit

/-- What becomes of the headings and the slugger of a visit when anchors are
entered. -/
def Entered (v w : Visit) (anchors : List Anchor) : Prop :=
  w.links.headings =
      v.links.headings ++ (Anchor.entries v.slugger anchors).map Anchor.value ∧
    w.slugger = Anchor.sluggerAfter v.slugger anchors

theorem Entered.refl (v : Visit) : Entered v v [] := by
  refine ⟨?_, (Anchor.sluggerAfter_nil v.slugger).symm⟩
  rw [show ([] : List Anchor) = [].map Anchor.written from rfl, Anchor.entries_written]
  simp

theorem Entered.trans {v w x : Visit} {as bs : List Anchor} (hvw : Entered v w as)
    (hwx : Entered w x bs) : Entered v x (as ++ bs) := by
  obtain ⟨hheadings, hslugger⟩ := hvw
  obtain ⟨hheadings', hslugger'⟩ := hwx
  constructor
  · rw [hheadings', hheadings, hslugger, Anchor.entries_append, List.map_append,
      List.append_assoc]
  · rw [hslugger', hslugger, Anchor.sluggerAfter_append]

/-- A node that writes identifiers appends them and does not touch the slugger. -/
theorem Entered.written {v w : Visit} (ids : List String)
    (hheadings : w.links.headings = v.links.headings ++ ids)
    (hslugger : w.slugger = v.slugger) : Entered v w (ids.map .written) := by
  constructor
  · rw [hheadings, Anchor.entries_written, List.map_map]
    congr 1
    exact (List.map_id ids).symm
  · rw [hslugger, Anchor.sluggerAfter_written]

theorem entered_anchor (v : Visit) (text : String) :
    Entered v (heading.anchor text v) (if text = "" then [] else [.generated text]) := by
  by_cases htext : text = ""
  · have hv : heading.anchor text v = v := by
      rw [heading.anchor]
      split
      · rfl
      · rw [if_pos htext]
    rw [if_pos htext, hv]
    exact .refl v
  · rw [if_neg htext, heading.anchor]
    cases hs : v.slugger with
    | none => simp [Entered, hs, Anchor.entries, Anchor.isWritten, Anchor.sluggerAfter]
    | some s =>
        simp [Entered, hs, htext, Anchor.entries, Anchor.withSlugs, Anchor.texts,
          Anchor.generated?, Anchor.value, Anchor.sluggerAfter, Slugger.slugs, Slugger.after,
          Links.addHeading]

theorem entered_heading (v : Visit) (id : Option String) (text : String) :
    Entered v (v.heading id text) (Tree.headingAnchor id text) := by
  cases id with
  | none => exact entered_anchor v text
  | some id =>
      by_cases hid : id = ""
      · simpa [heading, Tree.headingAnchor, Option.filter, hid] using entered_anchor v text
      · simpa [heading, Tree.headingAnchor, Option.filter, hid] using
          Entered.written (v := v) (w := { v with links := v.links.addHeading id }) [id] rfl rfl

/-- One step of the walk: the anchors of the node are entered, and no other
node but a heading without an identifier asks the slugger. -/
theorem entered_node (definitions : Definitions) (v : Visit) (t : Tree) :
    Entered v (v.node definitions t) t.ownAnchors := by
  cases t with
  | leaf l =>
      cases l with
      | html value => exact Entered.written _ (Links.headings_addTargets ..) rfl
      | _ => exact Entered.refl v
  | element e children =>
      cases e with
      | heading depth id => exact entered_heading ..
      | link url title =>
          exact Entered.written [] (by simp [node]) rfl
      | reference identifier label form =>
          simp only [node, reference]
          split
          · split
            · exact Entered.refl v
            · exact Entered.written [] (by simp) rfl
          · exact Entered.refl v
      | jsx place name attributes =>
          refine Entered.written _ ?_ rfl
          simp only [node, jsx]
          split
          · rw [Links.headings_addLinks, Links.headings_addHeadings]
          · rw [Links.headings_addHeadings]
      | _ => exact Entered.refl v

theorem entered_foldl_node (definitions : Definitions) (v : Visit) (nodes : List Tree) :
    Entered v (nodes.foldl (node definitions) v) (nodes.flatMap Tree.ownAnchors) := by
  induction nodes generalizing v with
  | nil => exact Entered.refl v
  | cons t rest ih => exact (entered_node definitions v t).trans (ih (v.node definitions t))

end Visit

theorem headings_extract (options : Options) (t : Tree) :
    (extract options t).headings =
      (Anchor.entries options.newVisit.slugger t.anchors).map Anchor.value := by
  have hwalk := Visit.entered_foldl_node (Definitions.ofTree t) options.newVisit t.walk
  rw [extract, hwalk.1, Tree.walk_eq_preorder]
  rfl

/-- Where anchors are generated, the headings of a document are its anchors in
document order, the texts replaced by what one fresh slugger returns for just
these texts. Where they are not, exactly the generated entries are missing, and
the links are the same. -/
theorem extract_headings (options : Options) (t : Tree) :
    let on := extract { options with headingSlugs := true } t
    let off := extract { options with headingSlugs := false } t
    let slugs := ({} : Slugger).slugs (Anchor.texts t.anchors)
    let entries := Anchor.withSlugs t.anchors slugs
    on.headings = entries.map Anchor.value ∧
      Anchor.texts entries = slugs ∧
      off.headings = (entries.filter Anchor.isWritten).map Anchor.value ∧
      off.internal = on.internal ∧ off.external = on.external := by
  intro on off slugs entries
  have hfits : Anchor.Fits t.anchors slugs := Anchor.fits_slugs {} t.anchors
  refine ⟨headings_extract .., Anchor.texts_withSlugs hfits, ?_, ?_, ?_⟩
  · rw [Anchor.filter_isWritten_withSlugs hfits]
    exact headings_extract ..
  · exact (ofKind_extract _ t .internal).trans (ofKind_extract _ t .internal).symm
  · exact (ofKind_extract _ t .external).trans (ofKind_extract _ t .external).symm

end LinkIndex
