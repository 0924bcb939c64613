import FormScaffold.Proofs.Template.Shapes
import FormScaffold.Shipped.Lines

/-!
# Reading shipped templates

A shipped template is a list of lines.  It is read from the characters of the lines, so what it
is read as can be computed from lists of characters that are written out.
-/

namespace FormScaffold.Shipped

open Template

/-- Lines and their characters. -/
inductive Spells : List String → List (List Char) → Prop where
  | nil : Spells [] []
  | cons {cs : List Char} {lines : List String} {css : List (List Char)} (h : Spells lines css) :
      Spells (String.ofList cs :: lines) (cs :: css)

/-- The characters of lines, each with its line break. -/
def spelled (css : List (List Char)) : List Char := css.flatMap (· ++ ['\n'])

theorem Spells.toList_ofLines {lines : List String} {css : List (List Char)}
    (h : Spells lines css) : (ofLines lines).toList = spelled css := by
  unfold ofLines spelled
  induction h with
  | nil => rfl
  | cons h ih =>
      rw [List.map_cons, String.join_cons, String.toList_append, ih]
      simp

/-- The nodes that characters are read as. -/
def nodesOf? (cs : List Char) : Option (List Node) :=
  let cs := skipComments cs.length cs
  let (first, rest) :=
    match inheritanceTag? cs with
    | some (x, rest) => ([x], rest)
    | none => ([], cs)
  match pieces (4 * (rest.length + 1)) Place.top rest with
  | (body, []) => some (Place.top.settle false false (first ++ body))
  | _ => none

theorem ofText?_ofLines {lines : List String} {css : List (List Char)} (h : Spells lines css) :
    Node.ofText? (ofLines lines) = nodesOf? (spelled css) := by
  rw [← h.toList_ofLines]
  rfl

theorem fits_of_spells {lines : List String} {css : List (List Char)} (h : Spells lines css)
    {c : Context} (hfits : ((nodesOf? (spelled css)).any c.fits) = true) :
    ∃ ns, Node.ofText? (ofLines lines) = some ns ∧ c.fits ns = true := by
  rw [ofText?_ofLines h]
  cases hread : nodesOf? (spelled css) with
  | none =>
      rw [hread] at hfits
      cases hfits
  | some ns =>
      rw [hread] at hfits
      exact ⟨ns, rfl, hfits⟩

/-! ## Texts in parts -/

/-- A text that is put together from others, and its characters. -/
inductive Joined : String → List Char → Prop where
  | append {s t : String} {cs ds : List Char} (hs : Joined s cs) (ht : Joined t ds) :
      Joined (s ++ t) (cs ++ ds)
  | one {cs : List Char} : Joined (String.ofList cs) cs

theorem Joined.eq {s : String} {cs : List Char} (h : Joined s cs) : s = String.ofList cs := by
  induction h with
  | append _ _ hs ht => rw [hs, ht, String.ofList_append]
  | one => rfl

/-- Nodes whose texts may be in parts, and the same nodes with the characters of those texts. -/
inductive JoinedNodes : List Node → List Node → Prop where
  | nil : JoinedNodes [] []
  | text {s : String} {cs : List Char} {ns whole : List Node} (hs : Joined s cs)
      (h : JoinedNodes ns whole) : JoinedNodes (.text s :: ns) (.text (String.ofList cs) :: whole)
  | other {n : Node} {ns whole : List Node} (h : JoinedNodes ns whole) :
      JoinedNodes (n :: ns) (n :: whole)

theorem JoinedNodes.eq {ns whole : List Node} (h : JoinedNodes ns whole) : whole = ns := by
  induction h with
  | nil => rfl
  | text hs _ ih => rw [ih, hs.eq]
  | other _ ih => rw [ih]

/-- Nodes are read from lines if their texts have the characters that are read. -/
theorem reads_of_spells {lines : List String} {css : List (List Char)} (h : Spells lines css)
    {ns whole : List Node} (hns : JoinedNodes ns whole)
    (hread : nodesOf? (spelled css) = some whole) : Node.ofText? (ofLines lines) = some ns := by
  rw [ofText?_ofLines h, hread, hns.eq]

/-! ## Nodes at the start -/

/-- Nodes of fixed texts and printed paths that are the same. -/
def sameNode : Node → Node → Bool
  | .text s, .text t => s == t
  | .print (.mk (.name p) false []), .print (.mk (.name q) false []) => p == q
  | _, _ => false

theorem eq_of_sameNode {n m : Node} (h : sameNode n m = true) : n = m := by
  unfold sameNode at h
  split at h
  · rw [eq_of_beq h]
  · rw [eq_of_beq h]
  · cases h

/-- Nodes start with others. -/
def startsWith : List Node → List Node → Bool
  | [], _ => true
  | n :: ns, m :: ms => sameNode n m && startsWith ns ms
  | _ :: _, [] => false

theorem eq_of_startsWith {head ns : List Node} (h : startsWith head ns = true) :
    ∃ rest, ns = head ++ rest := by
  induction head generalizing ns with
  | nil => exact ⟨ns, rfl⟩
  | cons n head ih =>
      cases ns with
      | nil => cases h
      | cons m ms =>
          obtain ⟨hfirst, hrest⟩ := Bool.and_eq_true_iff.mp h
          obtain ⟨rest, rfl⟩ := ih hrest
          exact ⟨rest, by rw [eq_of_sameNode hfirst, List.cons_append]⟩

theorem reads_start {lines : List String} {css : List (List Char)} (h : Spells lines css)
    {head : List Node} (hread : (nodesOf? (spelled css)).any (startsWith head) = true) :
    ∃ rest, Node.ofText? (ofLines lines) = some (head ++ rest) := by
  rw [ofText?_ofLines h]
  cases hns : nodesOf? (spelled css) with
  | none =>
      rw [hns] at hread
      cases hread
  | some ns =>
      rw [hns] at hread
      obtain ⟨rest, rfl⟩ := eq_of_startsWith hread
      exact ⟨rest, rfl⟩

end FormScaffold.Shipped
