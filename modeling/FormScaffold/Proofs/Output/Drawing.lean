import FormScaffold.Proofs.Output.FolderTrees
import FormScaffold.Proofs.Path.Parents
import FormScaffold.Proofs.Text.Cutting
import Mathlib.Data.List.Lex

/-!
# Drawings of folders are read back

A line of a drawing starts with one piece of indentation for each folder above its name, followed
by a branch, the name, and a slash if something is below the name.  Pieces and branches start with
different characters, and a name has no slash, so a line is read in one way even if its name looks
like a piece of a drawing.  The path of a name goes on from the line before: its folder is as many
names of that line's path as the line is indented.

What is read back from the drawing of some paths is every path that one of them starts with, in the
order of a walk through the tree.
-/

namespace FormScaffold.Output.FolderTree

open Path

/-! ## Lines -/

/-- What a line of a drawing says: for each folder above it whether it is the last of its own
folder, the same of its name, the name, and whether something is below it. -/
structure Line where
  above : List Bool
  isLast : Bool
  name : String
  isFolder : Bool
  deriving DecidableEq, Repr

/-- The indentation below folders. -/
def indentOf (above : List Bool) : String :=
  String.join (above.map fun isLast => if isLast then lastIndent else innerIndent)

/-- The text of a line. -/
def Line.text (l : Line) : String :=
  indentOf l.above ++ (if l.isLast then lastBranch else innerBranch) ++ l.name ++
    if l.isFolder then "/" else ""

/-- Read the indentation of a line. -/
def readIndent : List Char → List Bool × List Char
  | '│' :: ' ' :: ' ' :: ' ' :: cs => (false :: (readIndent cs).1, (readIndent cs).2)
  | ' ' :: ' ' :: ' ' :: ' ' :: cs => (true :: (readIndent cs).1, (readIndent cs).2)
  | cs => ([], cs)

/-- The line whose name, perhaps with a slash, is given as characters. -/
def Line.named (above : List Bool) (isLast : Bool) (cs : List Char) : Line :=
  if cs.getLast? = some '/' then ⟨above, isLast, String.ofList cs.dropLast, true⟩
  else ⟨above, isLast, String.ofList cs, false⟩

/-- Read a line. -/
def Line.ofChars? (cs : List Char) : Option Line :=
  match readIndent cs with
  | (above, '├' :: '─' :: '─' :: ' ' :: rest) => some (.named above false rest)
  | (above, '└' :: '─' :: '─' :: ' ' :: rest) => some (.named above true rest)
  | _ => none

/-- The name of the line can be written in a line. -/
structure Line.Clean (l : Line) : Prop where
  slash : '/' ∉ l.name.toList
  lineBreak : '\n' ∉ l.name.toList

theorem indentOf_concat (above : List Bool) (isLast : Bool) :
    indentOf (above ++ [isLast]) =
      indentOf above ++ if isLast then lastIndent else innerIndent := by
  simp [indentOf]

theorem readIndent_indentOf (above : List Bool) {rest : List Char}
    (h : readIndent rest = ([], rest)) :
    readIndent ((indentOf above).toList ++ rest) = (above, rest) := by
  have hpiece : ∀ isLast cs,
      readIndent ((if isLast then lastIndent else innerIndent).toList ++ cs) =
        (isLast :: (readIndent cs).1, (readIndent cs).2) := by
    intro isLast cs
    cases isLast <;> rfl
  induction above with
  | nil => exact h
  | cons isLast above ih =>
      rw [indentOf, List.map_cons, String.join_cons, String.toList_append, List.append_assoc,
        ← indentOf, hpiece, ih]

theorem Line.named_text {l : Line} (h : l.Clean) :
    Line.named l.above l.isLast (l.name.toList ++ (if l.isFolder then "/" else "").toList) = l := by
  obtain ⟨above, isLast, name, isFolder⟩ := l
  unfold Line.named
  cases isFolder
  · have hend : name.toList.getLast? ≠ some '/' := fun hend =>
      h.slash (List.mem_of_getLast? hend)
    simp [hend]
  · simp

/-- A line is read as what it says. -/
theorem Line.ofChars?_text {l : Line} (h : l.Clean) : Line.ofChars? l.text.toList = some l := by
  have hname := Line.named_text h
  unfold Line.text Line.ofChars?
  simp only [String.toList_append, List.append_assoc]
  cases hlast : l.isLast
  · rw [hlast] at hname
    rw [if_neg Bool.false_ne_true, readIndent_indentOf l.above rfl]
    exact congrArg some hname
  · rw [hlast] at hname
    rw [if_pos rfl, readIndent_indentOf l.above rfl]
    exact congrArg some hname

/-! ## Drawings -/

/-- A line together with the path of its name. -/
abbrev Drawn : Type := List String × Line

/-- Read lines that follow the line of the path `before`. -/
def readLines (before : List String) : List (List Char) → Option (List Drawn)
  | [] => some []
  | cs :: rest => do
      let line ← Line.ofChars? cs
      let path := before.take line.above.length ++ [line.name]
      let more ← readLines path rest
      return (path, line) :: more

/-- Read a drawing: the name of its root, and its lines. -/
def readDrawing? (text : String) : Option (String × List Drawn) :=
  match (text.toList.splitOn '\n').dropLast with
  | [] => none
  | first :: rest =>
      if first.getLast? = some '/' then
        (readLines [] rest).map fun drawn => (String.ofList first.dropLast, drawn)
      else none

/-- The lines of names in a folder, and of what is below them. -/
def drawnOf (folder : List String) (above : List Bool) : List (String × FolderTree) → List Drawn
  | [] => []
  | (name, .node below) :: rest =>
      (folder ++ [name], ⟨above, rest.isEmpty, name, !below.isEmpty⟩) ::
        (drawnOf (folder ++ [name]) (above ++ [rest.isEmpty]) below ++ drawnOf folder above rest)

/-- Induction on names and what is below them. -/
@[elab_as_elim]
theorem children_induction {P : List (String × FolderTree) → Prop} (nil : P [])
    (cons : ∀ name below rest, P below → P rest → P ((name, .node below) :: rest)) :
    ∀ children, P children
  | [] => nil
  | (name, .node below) :: rest =>
      cons name below rest (children_induction nil cons below) (children_induction nil cons rest)

theorem childLines_eq (folder : List String) (above : List Bool)
    (children : List (String × FolderTree)) :
    childLines (indentOf above) children = (drawnOf folder above children).map (·.2.text) := by
  induction children using children_induction generalizing folder above with
  | nil => simp [childLines, drawnOf]
  | cons name below rest hbelow hrest =>
      rw [childLines, drawnOf, List.map_cons, List.map_append, ← hrest, ← hbelow, indentOf_concat]
      simp [Line.text]

/-- The lines of a folder are read back after any line in it or below it. -/
theorem readLines_drawnOf {folder : List String} {above : List Bool}
    {children : List (String × FolderTree)} (hlength : above.length = folder.length)
    (hclean : ∀ d ∈ drawnOf folder above children, d.2.Clean) {before : List String}
    (hbefore : folder <+: before) (more : List (List Char)) :
    ∃ after, folder <+: after ∧
      readLines before ((drawnOf folder above children).map (·.2.text.toList) ++ more) =
        (readLines after more).map (drawnOf folder above children ++ ·) := by
  induction children using children_induction generalizing folder above before more with
  | nil => exact ⟨before, hbefore, by simp [drawnOf]⟩
  | cons name below rest hbelow hrest =>
      rw [drawnOf] at hclean ⊢
      obtain ⟨hline, hdeeper, hlater⟩ : _ ∧ (∀ d ∈ drawnOf _ _ below, d.2.Clean) ∧
          ∀ d ∈ drawnOf _ _ rest, d.2.Clean := by
        simpa only [List.forall_mem_cons, List.forall_mem_append] using hclean
      have hpath : before.take above.length ++ [name] = folder ++ [name] := by
        rw [hlength, ← List.prefix_iff_eq_take.mp hbefore]
      -- What is below the name goes on from its line, the other names from the last line there.
      obtain ⟨middle, hmiddle, hreadBelow⟩ := hbelow (by simp [hlength]) hdeeper
        (List.prefix_refl _) ((drawnOf folder above rest).map (·.2.text.toList) ++ more)
      obtain ⟨after, hafter, hreadRest⟩ := hrest hlength hlater
        ((List.prefix_append _ _).trans hmiddle) more
      refine ⟨after, hafter, ?_⟩
      rw [List.map_cons, List.cons_append, readLines, Line.ofChars?_text hline, List.map_append,
        List.append_assoc]
      simp only [Option.bind_eq_bind, Option.bind_some, hpath, hreadBelow, hreadRest,
        Option.map_map]
      cases readLines after more <;> simp

/-! ## Paths of the lines -/

@[simp]
theorem node_children (t : FolderTree) : node t.children = t := by
  cases t
  rfl

theorem holds_cons_children {name first : String} {t : FolderTree}
    {rest : List (String × FolderTree)} {p : List String} :
    (node ((name, t) :: rest)).Holds (first :: p) ↔
      first = name ∧ t.Holds p ∨ (node rest).Holds (first :: p) := by
  simp only [Holds, children, List.mem_cons, Prod.mk.injEq, or_and_right, exists_or, and_assoc,
    exists_and_left, exists_eq_left]

theorem exists_holds_iff (below : List (String × FolderTree)) :
    (∃ name, (node below).Holds [name]) ↔ (!below.isEmpty) = true := by
  cases below with
  | nil => simp [Holds, children]
  | cons c rest => exact iff_of_true ⟨c.1, c.2, List.mem_cons_self, trivial⟩ rfl

/-- The lines of a folder are for what is in it and below it. -/
theorem mem_paths_drawnOf {folder : List String} {above : List Bool}
    {children : List (String × FolderTree)} {p : List String} :
    p ∈ (drawnOf folder above children).map Prod.fst ↔
      ∃ q, q ≠ [] ∧ p = folder ++ q ∧ (node children).Holds q := by
  induction children using children_induction generalizing folder above with
  | nil =>
      refine iff_of_false (by simp [drawnOf]) ?_
      rintro ⟨q, hq, -, hholds⟩
      exact hq (holds_empty.mp hholds)
  | cons name below rest hbelow hrest =>
      rw [drawnOf, List.map_cons, List.mem_cons, List.map_append, List.mem_append, hbelow, hrest]
      constructor
      · rintro (rfl | ⟨q, -, rfl, hq⟩ | ⟨q, hne, rfl, hq⟩)
        · exact ⟨[name], by simp, rfl, holds_cons_children.mpr (Or.inl ⟨rfl, trivial⟩)⟩
        · exact ⟨name :: q, by simp, by simp, holds_cons_children.mpr (Or.inl ⟨rfl, hq⟩)⟩
        · cases q with
          | nil => exact absurd rfl hne
          | cons first q => exact ⟨_, hne, rfl, holds_cons_children.mpr (Or.inr hq)⟩
      · rintro ⟨q, hne, rfl, hq⟩
        cases q with
        | nil => exact absurd rfl hne
        | cons first q =>
            rcases holds_cons_children.mp hq with ⟨rfl, hunder⟩ | hlater
            · by_cases hend : q = []
              · exact Or.inl (by rw [hend])
              · exact Or.inr (Or.inl ⟨q, hend, by simp, hunder⟩)
            · exact Or.inr (Or.inr ⟨_, hne, rfl, hlater⟩)

theorem lt_append {p q : List String} (h : q ≠ []) : p < p ++ q := by
  obtain ⟨first, rest, rfl⟩ := List.exists_cons_of_ne_nil h
  have hless := List.Lex.append_left (· < ·) (.nil : List.Lex (· < ·) [] (first :: rest)) p
  rw [List.append_nil] at hless
  exact hless

theorem append_lt {p : List String} {x y : String} (h : x < y) (q r : List String) :
    p ++ x :: q < p ++ y :: r :=
  List.Lex.append_left _ (.rel h) p

theorem Ordered.tail {c : String × FolderTree} {rest : List (String × FolderTree)}
    (h : Ordered (.node (c :: rest))) : Ordered (.node rest) := by
  obtain ⟨hnames, hbelow⟩ := h
  exact .node (List.pairwise_cons.mp hnames).2 fun c hc => hbelow c (List.mem_cons_of_mem _ hc)

/-- The paths of the lines are in order, each before what it leads to. -/
theorem pairwise_drawnOf {folder : List String} {above : List Bool}
    {children : List (String × FolderTree)} (h : Ordered (.node children)) :
    ((drawnOf folder above children).map Prod.fst).Pairwise (· < ·) := by
  induction children using children_induction generalizing folder above with
  | nil => simp [drawnOf]
  | cons name below rest hbelow hrest =>
      have htail := h.tail
      obtain ⟨hnames, hordered⟩ := h
      have hlater := (List.pairwise_cons.mp hnames).1
      -- Whatever is in the rest of the folder comes after all that starts with the first name.
      have hcross : ∀ q, ∀ p ∈ (drawnOf folder above rest).map Prod.fst,
          folder ++ name :: q < p := by
        intro q p hp
        obtain ⟨r, hne, rfl, hholds⟩ := mem_paths_drawnOf.mp hp
        cases r with
        | nil => exact absurd rfl hne
        | cons other r =>
            obtain ⟨t, hmem, -⟩ := hholds
            exact append_lt (hlater _ hmem) q r
      rw [drawnOf, List.map_cons, List.map_append, List.pairwise_cons, List.pairwise_append]
      refine ⟨fun p hp => ?_, hbelow (hordered _ List.mem_cons_self), hrest htail,
        fun p hp => ?_⟩
      · rcases List.mem_append.mp hp with hp | hp
        · obtain ⟨q, hne, rfl, -⟩ := mem_paths_drawnOf.mp hp
          exact lt_append hne
        · exact hcross [] p hp
      · obtain ⟨q, -, rfl, -⟩ := mem_paths_drawnOf.mp hp
        rw [List.append_assoc]
        exact hcross q

/-! ## What the lines say -/

/-- No name that is found in the folder comes after this one. -/
def IsLastIn (found : List String → Prop) (folder : List String) (name : String) : Prop :=
  ∀ other, found (folder ++ [other]) → other ≤ name

/-- For each name on the way, whether it is the last of its folder. -/
structure Turns (found : List String → Prop) (way : List String) (turns : List Bool) : Prop where
  length : turns.length = way.length
  last : ∀ folder name rest, way = folder ++ name :: rest →
    ∃ isLast, turns[folder.length]? = some isLast ∧ (isLast = true ↔ IsLastIn found folder name)

/-- The names are what is found in a folder from some name on. -/
structure Shows (found : List String → Prop) (folder : List String)
    (children : List (String × FolderTree)) : Prop where
  below : ∀ c ∈ children, ∀ q, found (folder ++ c.1 :: q) ↔ c.2.Holds q
  before : ∀ name, found (folder ++ [name]) →
    name ∈ children.map Prod.fst ∨ ∀ c ∈ children, name < c.1

/-- The line says of its path what is found. -/
structure Tells (found : List String → Prop) (d : Drawn) : Prop where
  name : ∃ folder, d.1 = folder ++ [d.2.name]
  isFolder : d.2.isFolder = true ↔ ∃ name, found (d.1 ++ [name])
  turns : Turns found d.1 (d.2.above ++ [d.2.isLast])

theorem Turns.concat {found : List String → Prop} {way : List String} {turns : List Bool}
    (h : Turns found way turns) {name : String} {isLast : Bool}
    (hlast : isLast = true ↔ IsLastIn found way name) :
    Turns found (way ++ [name]) (turns ++ [isLast]) := by
  refine ⟨by simp [h.length], fun folder other rest hway => ?_⟩
  -- What follows the name that is asked for tells whether it is the new one or stands before it.
  rcases List.eq_nil_or_concat rest with rfl | ⟨init, final, rfl⟩
  · obtain ⟨rfl, hother⟩ := List.append_inj' hway rfl
    cases hother
    exact ⟨isLast, by simp [← h.length], hlast⟩
  · rw [List.concat_eq_append, ← List.cons_append, ← List.append_assoc] at hway
    obtain ⟨hinit, -⟩ := List.append_inj' hway rfl
    obtain ⟨b, hb, hiff⟩ := h.last folder other init hinit
    refine ⟨b, ?_, hiff⟩
    rw [List.getElem?_append_left, hb]
    rw [h.length, hinit]
    simp

namespace Shows

variable {found : List String → Prop} {folder : List String} {name : String}
variable {below rest : List (String × FolderTree)}

/-- The name is the last of the folder if none are left after it. -/
theorem isEmpty_iff (h : Shows found folder ((name, .node below) :: rest))
    (hlater : ∀ c ∈ rest, name < c.1) : rest.isEmpty = true ↔ IsLastIn found folder name := by
  cases rest with
  | nil =>
      refine iff_of_true rfl fun other hother => ?_
      rcases h.before other hother with hmem | hless
      · obtain rfl := List.mem_singleton.mp hmem
        exact String.le_refl _
      · exact String.not_lt.mp (String.lt_asymm (hless _ List.mem_cons_self))
  | cons c rest =>
      -- The next name of the folder is found, and comes after this one.
      refine iff_of_false Bool.false_ne_true fun hlast => ?_
      have hnext : found (folder ++ [c.1]) := (h.below c (by simp) []).mpr trivial
      exact String.not_lt.mpr (hlast c.1 hnext) (hlater c List.mem_cons_self)

theorem deeper (h : Shows found folder ((name, .node below) :: rest))
    (hordered : Ordered (.node below)) : Shows found (folder ++ [name]) below := by
  obtain ⟨hnames, -⟩ := hordered
  have hfound := h.below _ List.mem_cons_self
  constructor
  · intro c hc q
    rw [List.append_assoc, List.singleton_append, hfound, holds_cons_of_mem hnames hc]
  · intro other hother
    rw [List.append_assoc, List.singleton_append, hfound] at hother
    obtain ⟨t, hmem, -⟩ := hother
    exact Or.inl (List.mem_map_of_mem hmem)

theorem tail (h : Shows found folder ((name, .node below) :: rest))
    (hlater : ∀ c ∈ rest, name < c.1) : Shows found folder rest := by
  constructor
  · exact fun c hc => h.below c (List.mem_cons_of_mem _ hc)
  · intro other hother
    rcases h.before other hother with hmem | hless
    · rcases List.mem_cons.mp hmem with rfl | hmem
      · exact Or.inr hlater
      · exact Or.inl hmem
    · exact Or.inr fun c hc => hless c (List.mem_cons_of_mem _ hc)

end Shows

theorem tells_drawnOf {found : List String → Prop} {folder : List String} {above : List Bool}
    {children : List (String × FolderTree)} (hshows : Shows found folder children)
    (hordered : Ordered (.node children)) (habove : Turns found folder above) :
    ∀ d ∈ drawnOf folder above children, Tells found d := by
  induction children using children_induction generalizing folder above with
  | nil => simp [drawnOf]
  | cons name below rest hbelow hrest =>
      have htail := hordered.tail
      obtain ⟨hnames, hunder⟩ := hordered
      have hlater := (List.pairwise_cons.mp hnames).1
      have hordered := hunder _ List.mem_cons_self
      have hturns := habove.concat (hshows.isEmpty_iff hlater)
      intro d hd
      rw [drawnOf] at hd
      rcases List.mem_cons.mp hd with rfl | hd
      · refine ⟨⟨folder, rfl⟩, ?_, hturns⟩
        have hfound := fun name' => hshows.below _ List.mem_cons_self [name']
        simp only [List.append_assoc, List.cons_append, List.nil_append, hfound]
        exact (exists_holds_iff below).symm
      · rcases List.mem_append.mp hd with hd | hd
        · exact hbelow (hshows.deeper hordered) hordered hturns d hd
        · exact hrest (hshows.tail hlater) htail habove d hd

/-! ## What is read back -/

/-- The lines show what the paths start with: each beginning of a path once, in the order of a walk
through the folders, with names in order; what leads on is a folder, and no other name of a folder
comes after the last one.  A line is indented for each folder on its way, and says of each of them
what the folder's own line says. -/
structure Draws (paths : List String) (drawn : List Drawn) : Prop where
  complete : ∀ p, p ∈ drawn.map Prod.fst ↔ p ≠ [] ∧ ∃ path ∈ paths, p <+: namesOf path
  ascending : (drawn.map Prod.fst).Pairwise (· < ·)
  isFolder : ∀ d ∈ drawn, d.2.isFolder = true ↔
    ∃ path ∈ paths, d.1 <+: namesOf path ∧ d.1 ≠ namesOf path
  isLast : ∀ d ∈ drawn, ∀ folder name, d.1 = folder ++ [name] →
    (d.2.isLast = true ↔ ∀ other, folder ++ [other] ∈ drawn.map Prod.fst → other ≤ name)
  indented : ∀ d ∈ drawn, d.2.above.length + 1 = d.1.length
  above : ∀ d ∈ drawn, ∀ f ∈ drawn, f.1 <+: d.1 → f.1 ≠ d.1 →
    d.2.above[f.1.length - 1]? = some f.2.isLast

theorem exists_concat_prefix_iff {p names : List String} :
    (∃ name, p ++ [name] <+: names) ↔ p <+: names ∧ p ≠ names := by
  constructor
  · rintro ⟨name, rest, rfl⟩
    exact ⟨⟨[name] ++ rest, by simp⟩, by simp⟩
  · rintro ⟨⟨rest, rfl⟩, hne⟩
    cases rest with
    | nil => simp at hne
    | cons name rest => exact ⟨name, rest, by simp⟩

namespace Tells

variable {found : List String → Prop} {d f : Drawn}

theorem length (h : Tells found d) : d.2.above.length + 1 = d.1.length := by
  simpa using h.turns.length

theorem isLast_iff (h : Tells found d) {folder : List String} {name : String}
    (hd : d.1 = folder ++ [name]) : d.2.isLast = true ↔ IsLastIn found folder name := by
  obtain ⟨isLast, hlast, hiff⟩ := h.turns.last folder name [] hd
  have hlength : d.2.above.length = folder.length := by
    have hall := h.length
    rw [hd, List.length_append, List.length_singleton] at hall
    omega
  rw [← hlength, List.getElem?_concat_length] at hlast
  cases hlast
  exact hiff

/-- A line says of a folder on its way what the folder's own line says. -/
theorem above_eq (hd : Tells found d) (hf : Tells found f) (hway : f.1 <+: d.1)
    (hne : f.1 ≠ d.1) : d.2.above[f.1.length - 1]? = some f.2.isLast := by
  obtain ⟨folder, hfolder⟩ := hf.name
  obtain ⟨rest, hrest⟩ := hway
  have hmore : rest ≠ [] := by
    rintro rfl
    exact hne (by rw [← hrest, List.append_nil])
  have hsplit : d.1 = folder ++ f.2.name :: rest := by
    rw [← hrest, hfolder, List.append_assoc, List.singleton_append]
  obtain ⟨isLast, hlast, hiff⟩ := hd.turns.last folder _ rest hsplit
  have hsame : isLast = f.2.isLast := Bool.eq_iff_iff.mpr (hiff.trans (hf.isLast_iff hfolder).symm)
  have hbefore : folder.length < d.2.above.length := by
    have hall := hd.length
    have hpos := List.length_pos_of_ne_nil hmore
    rw [hsplit, List.length_append, List.length_cons] at hall
    omega
  have hdepth : f.1.length - 1 = folder.length := by
    rw [hfolder, List.length_append, List.length_singleton, Nat.add_sub_cancel]
  rw [hdepth, ← List.getElem?_append_left hbefore, hlast, hsame]

end Tells

theorem Ordered.tells {t : FolderTree} (h : t.Ordered) :
    ∀ d ∈ drawnOf [] [] t.children, Tells t.Holds d := by
  obtain ⟨hnames, hbelow⟩ := h
  refine tells_drawnOf ⟨fun c hc q => holds_cons_of_mem hnames hc, ?_⟩ (.node hnames hbelow)
    ⟨rfl, fun folder name rest hway => ?_⟩
  · rintro name ⟨t, hmem, -⟩
    exact Or.inl (List.mem_map_of_mem hmem)
  · simp at hway

/-- The lines of the tree of some paths show what the paths start with. -/
theorem draws_ofPaths (paths : List String) :
    Draws paths (drawnOf [] [] (ofPaths paths).children) := by
  have hordered := ordered_ofPaths paths
  have htells := hordered.tells
  have hfound : ∀ folder name, (ofPaths paths).Holds (folder ++ [name]) ↔
      ∃ path ∈ paths, folder ++ [name] <+: namesOf path := by
    intro folder name
    rw [holds_ofPaths]
    simp
  have hcomplete : ∀ p, p ∈ (drawnOf [] [] (ofPaths paths).children).map Prod.fst ↔
      p ≠ [] ∧ ∃ path ∈ paths, p <+: namesOf path := by
    intro p
    rw [mem_paths_drawnOf]
    simp only [List.nil_append, node_children, holds_ofPaths]
    constructor
    · rintro ⟨q, hne, rfl, hempty | hstart⟩
      · exact absurd hempty hne
      · exact ⟨hne, hstart⟩
    · rintro ⟨hne, hstart⟩
      exact ⟨p, hne, rfl, Or.inr hstart⟩
  constructor
  · exact hcomplete
  · exact pairwise_drawnOf ((node_children _).symm ▸ hordered)
  · intro d hd
    rw [(htells d hd).isFolder]
    simp only [hfound, ← exists_concat_prefix_iff]
    exact ⟨fun ⟨name, path, hpath, h⟩ => ⟨path, hpath, name, h⟩,
      fun ⟨path, hpath, name, h⟩ => ⟨name, path, hpath, h⟩⟩
  · intro d hd folder name hname
    rw [(htells d hd).isLast_iff hname]
    unfold IsLastIn
    simp only [hfound, hcomplete]
    simp
  · exact fun d hd => (htells d hd).length
  · exact fun d hd f hf => (htells d hd).above_eq (htells f hf)

theorem lineBreak_not_mem_text {l : Line} (h : l.Clean) : '\n' ∉ l.text.toList := by
  have hindent : '\n' ∉ (indentOf l.above).toList := by
    induction l.above with
    | nil => simp [indentOf]
    | cons isLast above ih =>
        rw [indentOf, List.map_cons, String.join_cons, String.toList_append, List.mem_append,
          ← indentOf]
        cases isLast
        · exact fun hmem => hmem.elim (by decide) ih
        · exact fun hmem => hmem.elim (by decide) ih
  have hbranch : '\n' ∉ (if l.isLast then lastBranch else innerBranch).toList := by
    cases l.isLast <;> decide
  have hmark : '\n' ∉ (if l.isFolder then "/" else "").toList := by
    cases l.isFolder <;> decide
  simp [Line.text, hindent, hbranch, h.lineBreak, hmark]

/-- The names of lines are names of the paths. -/
theorem Draws.clean {paths : List String} {drawn : List Drawn} (h : Draws paths drawn)
    (hbreak : ∀ path ∈ paths, '\n' ∉ path.toList) {d : Drawn} (hd : d ∈ drawn)
    (hname : ∃ folder, d.1 = folder ++ [d.2.name]) : d.2.Clean := by
  obtain ⟨-, path, hpath, hstart⟩ := (h.complete d.1).mp (List.mem_map_of_mem hd)
  obtain ⟨folder, hfolder⟩ := hname
  have hmem : d.2.name ∈ namesOf path := hstart.subset (by rw [hfolder]; simp)
  obtain ⟨s, hs, hchars⟩ := List.mem_map.mp hmem
  have hsegment := (List.mem_filter.mp hs).1
  rw [← String.toList_inj, String.toList_ofList] at hchars
  subst hchars
  exact ⟨slash_not_mem_of_mem_segmentsOf hsegment,
    fun hmem => hbreak path hpath (mem_of_mem_segmentsOf hsegment hmem)⟩

/-- A drawing is read back as the name of its root and as lines that show what the paths start with,
unless a name has a line break.  Paths that are spelled otherwise have the same drawing. -/
theorem drawing_read_back (root : String) (paths : List String) :
    ('\n' ∉ root.toList → (∀ path ∈ paths, '\n' ∉ path.toList) →
      ∃ drawn, readDrawing? (drawing root paths) = some (root, drawn) ∧ Draws paths drawn) ∧
    ∀ others, Relation.EqvGen Respelled paths others →
      drawing root others = drawing root paths := by
  refine ⟨fun hroot hbreak => ?_, fun others h => by rw [drawing, drawing, ofPaths_respelled h]⟩
  have hdraws := draws_ofPaths paths
  have htells := (ordered_ofPaths paths).tells
  refine ⟨_, ?_, hdraws⟩
  have hlines : lines "" (ofPaths paths) =
      (drawnOf [] [] (ofPaths paths).children).map (·.2.text) := by
    rw [← childLines_eq]
    cases ofPaths paths
    rfl
  have hclean : ∀ d ∈ drawnOf [] [] (ofPaths paths).children, d.2.Clean := fun d hd =>
    hdraws.clean hbreak hd (htells d hd).name
  obtain ⟨after, -, hread⟩ := readLines_drawnOf rfl hclean (List.prefix_refl []) []
  have hall : ∀ line ∈ (root ++ "/") :: lines "" (ofPaths paths), '\n' ∉ line.toList := by
    intro line hline
    rcases List.mem_cons.mp hline with rfl | hline
    · simp [hroot]
    · rw [hlines] at hline
      obtain ⟨d, hd, rfl⟩ := List.mem_map.mp hline
      exact lineBreak_not_mem_text (hclean d hd)
  -- Without line breaks in the lines the text is cut into them again.
  have hcut := Text.splitOn_lines hall []
  rw [List.append_nil, List.splitOn_nil, ← drawing] at hcut
  unfold readDrawing?
  rw [hcut, List.dropLast_concat, List.map_cons, hlines, List.map_map]
  have hend : (root ++ "/").toList = root.toList ++ ['/'] := String.toList_append
  rw [List.append_nil] at hread
  simp only [hend, List.getLast?_concat, List.dropLast_concat, if_true, String.ofList_toList]
  change Option.map _ (readLines [] _) = _
  rw [Function.comp_def, hread]
  simp [readLines]

/-- Paths with names that look like pieces of a drawing, some of which start others. -/
def boxedPaths : List String := ["b/│   ├── x", "a/└── y/", "//b", "a"]

theorem boxedPaths_read_back :
    ('\n' ∉ "App".toList ∧ ∀ path ∈ boxedPaths, '\n' ∉ path.toList) ∧
    drawing "App" boxedPaths =
      "App/\n├── a/\n│   └── └── y\n└── b/\n    └── │   ├── x\n" ∧
    (∃ drawn, readDrawing? (drawing "App" boxedPaths) = some ("App", drawn) ∧
      Draws boxedPaths drawn ∧
      drawn.map Prod.fst = [["a"], ["a", "└── y"], ["b"], ["b", "│   ├── x"]]) ∧
    Relation.EqvGen Respelled boxedPaths (("/" ++ "b/│   ├── x") :: boxedPaths.tail) ∧
    drawing "App" (("/" ++ "b/│   ├── x") :: boxedPaths.tail) = drawing "App" boxedPaths := by
  obtain ⟨hread, hsame⟩ := drawing_read_back "App" boxedPaths
  have hroot : '\n' ∉ "App".toList := by decide
  have hbreak : ∀ path ∈ boxedPaths, '\n' ∉ path.toList := by decide
  have htree : ofPaths boxedPaths = .node [("a", .node [("└── y", .node [])]),
      ("b", .node [("│   ├── x", .node [])])] := rfl
  have htext : drawing "App" boxedPaths =
      "App/\n├── a/\n│   └── └── y\n└── b/\n    └── │   ├── x\n" := by
    rw [drawing, htree]
    simp [lines, childLines, innerBranch, lastBranch, innerIndent, lastIndent]
  have hspelled : Relation.EqvGen Respelled boxedPaths
      (("/" ++ "b/│   ├── x") :: boxedPaths.tail) := .rel _ _ (.slashed (.leading _))
  obtain ⟨drawn, hdrawn, hdraws⟩ := hread hroot hbreak
  refine ⟨⟨hroot, hbreak⟩, htext, ⟨drawn, hdrawn, hdraws, ?_⟩, hspelled, hsame _ hspelled⟩
  have hpaths : (readDrawing? (drawing "App" boxedPaths)).map (·.2.map Prod.fst) =
      some [["a"], ["a", "└── y"], ["b"], ["b", "│   ├── x"]] := by
    rw [htext]
    decide +kernel
  rw [hdrawn] at hpaths
  exact Option.some.inj hpaths

end FormScaffold.Output.FolderTree
