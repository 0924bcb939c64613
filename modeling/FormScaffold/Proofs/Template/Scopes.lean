import FormScaffold.Proofs.Record.KeyedOrder
import FormScaffold.Proofs.Template.Shapes
import FormScaffold.Proofs.Text.Replacing

/-!
# Plain paths in scopes

What a stack of frames gives for a plain path: a name, a name and a member of it, or what a loop
tells of its progress.  Assigning to a name changes only this name and the paths that start with
it, and a loop's frame changes only the names of the loop.
-/

namespace FormScaffold

namespace Template

open Json Text

/-! ## Reading plain paths -/

theorem isNameChar_of_mem {s : String} (h : isPlainName s = true) {c : Char}
    (hc : c ∈ s.toList) : isNameChar c = true := by
  simp only [isPlainName, Bool.and_eq_true] at h
  exact List.all_eq_true.mp h.1.1.1 c hc

theorem not_mem_of_isPlainName {s : String} (h : isPlainName s = true) {c : Char}
    (hc : isNameChar c = false) : c ∉ s.toList := fun hmem => by
  rw [isNameChar_of_mem h hmem] at hc
  cases hc

theorem ne_of_isPlainName {s : String} (h : isPlainName s = true) :
    s ≠ "" ∧ s ≠ "loop" ∧ s ≠ everythingName := by
  simp only [isPlainName, Bool.and_eq_true, bne_iff_ne, ne_eq] at h
  exact ⟨h.1.1.2, h.1.2, h.2⟩

/-- A path that a scope is asked for: a name, a member of one of some names, or what a loop
tells of its progress. -/
inductive PathIn (heads : List String) : String → Prop where
  | name {n : String} (h : isPlainName n = true) : PathIn heads n
  | member {n k : String} (hn : n ∈ heads) (hname : isPlainName n = true)
      (hkey : isPlainName k = true) : PathIn heads (n ++ "." ++ k)
  | progress {p : String} (h : p ∈ Context.progress.map Prod.fst) : PathIn heads p

theorem PathIn.of_subset {heads more : List String} {p : String} (h : PathIn heads p)
    (hsub : heads ⊆ more) : PathIn more p := by
  cases h with
  | name h => exact .name h
  | member hn hname hkey => exact .member (hsub hn) hname hkey
  | progress h => exact .progress h

/-- A plain name is read as a whole before the point that splits it from a member. -/
theorem bne_point_of_isPlainName {n : String} (h : isPlainName n = true) :
    ∀ c ∈ n.toList, (c != '.') = true := fun c hc =>
  bne_iff_ne.mpr fun heq => not_mem_of_isPlainName h (c := '.') (by decide) (heq ▸ hc)

theorem splitHead_name {n : String} (h : isPlainName n = true) :
    splitHead n.toList = (n.toList, none) := by
  have hdrop : (n.toList ++ []).dropWhile (· != '.') = List.dropWhile (· != '.') [] :=
    List.dropWhile_append_of_pos (bne_point_of_isPlainName h)
  rw [List.append_nil, List.dropWhile_nil] at hdrop
  unfold splitHead
  rw [hdrop]

theorem splitHead_member {n k : String} (h : isPlainName n = true) :
    splitHead (n ++ "." ++ k).toList = (n.toList, some k.toList) := by
  have hall := bne_point_of_isPlainName h
  have hlist : (n ++ "." ++ k).toList = n.toList ++ '.' :: k.toList := by
    simp [String.toList_append]
  unfold splitHead
  rw [hlist, List.dropWhile_append_of_pos hall, List.takeWhile_append_of_pos hall]
  simp

theorem unescapedKey_name {n : String} (h : isPlainName n = true) :
    unescapedKey n.toList = n := by
  have htilde := not_mem_of_isPlainName h (c := '~') (by decide)
  unfold unescapedKey
  rw [replaceAll_eq_self ⟨'~', by simp, htilde⟩, replaceAll_eq_self ⟨'~', by simp, htilde⟩,
    String.ofList_toList]

theorem keysFrom_name {k : String} (h : isPlainName k = true) :
    keysFrom false [] k.toList = [k] := by
  have hkeys : ∀ before cs : List Char, (∀ c ∈ cs, isNameChar c = true) →
      keysFrom false before cs = [unescapedKey (before.reverse ++ cs)] := by
    intro before cs
    induction cs generalizing before with
    | nil => intro _; simp [keysFrom]
    | cons c cs ih =>
        intro hcs
        have hc := hcs c List.mem_cons_self
        have hquote : c ≠ '"' := by
          rintro rfl
          cases hc
        have hpoint : c ≠ '.' := by
          rintro rfl
          cases hc
        rw [keysFrom.eq_3 _ _ _ _ hquote]
        simp [hpoint, ih (c :: before) fun d hd => hcs d (List.mem_cons_of_mem _ hd)]
  rw [hkeys [] k.toList fun c hc => isNameChar_of_mem h hc]
  simp [unescapedKey_name h]

theorem atPath?_member {v u : Value} {k : String} (h : isPlainName k = true)
    (hmember : v.member? k = some u) : atPath? v k.toList = some u := by
  have hne : k.toList.isEmpty = false := by simpa using (ne_of_isPlainName h).1
  unfold atPath?
  rw [hne, keysFrom_name h]
  cases v with
  | object ms => simpa [follow?, step?, Value.member?] using hmember
  | _ => cases hmember

theorem not_bracket_of_path {heads : List String} {p : String} (h : PathIn heads p) :
    '[' ∉ p.toList ∧ p ≠ everythingName := by
  cases h with
  | name h =>
      exact ⟨not_mem_of_isPlainName h (by decide), (ne_of_isPlainName h).2.2⟩
  | @member n k _ hname hkey =>
      have hlist : (n ++ "." ++ k).toList = n.toList ++ '.' :: k.toList := by
        simp [String.toList_append]
      refine ⟨?_, fun heq => ?_⟩
      · have hn := not_mem_of_isPlainName hname (c := '[') (by decide)
        have hk := not_mem_of_isPlainName hkey (c := '[') (by decide)
        rw [hlist]
        simp [hn, hk]
      · have hpoint : '.' ∈ everythingName.toList := by
          rw [← heq, hlist]
          simp
        revert hpoint
        decide
  | progress h => revert h; revert p; decide

/-! ## Assignments -/

theorem splitHead_progress {p : String} (h : p ∈ Context.progress.map Prod.fst) :
    (splitHead p.toList).1 = "loop".toList ∧ (splitHead p.toList).2.isSome = true := by
  revert p
  decide

/-- Assigning to a plain name that no path starts with changes that name only. -/
theorem atPathIn?_insert {heads : List String} {key p : String} (hkey : isPlainName key = true)
    (hheads : key ∉ heads) (hp : PathIn heads p) (hne : p ≠ key) (v : Value) (m : Keyed Value) :
    atPathIn? (Keyed.insert key v m) p.toList = atPathIn? m p.toList := by
  unfold atPathIn?
  cases hp with
  | name h =>
      rw [splitHead_name h]
      simp [Keyed.get?_insert, hne]
  | @member n k hn hname _ =>
      have hother : n ≠ key := fun heq => hheads (heq ▸ hn)
      rw [splitHead_member hname]
      simp [Keyed.get?_insert, unescapedKey_name hname, hother]
  | progress h =>
      obtain ⟨hhead, htail⟩ := splitHead_progress h
      obtain ⟨what, hwhat⟩ := Option.isSome_iff_exists.mp htail
      have hpair : splitHead p.toList = ("loop".toList, some what) := Prod.ext hhead hwhat
      have hloop : unescapedKey "loop".toList = "loop" := by decide
      rw [hpair]
      simp only [hloop, Keyed.get?_insert, if_neg (ne_of_isPlainName hkey).2.1.symm]

theorem find?_assign {heads : List String} {key p : String} (hkey : isPlainName key = true)
    (hheads : key ∉ heads) (hp : PathIn heads p) (hne : p ≠ key) (v : Value) (f : Frame) :
    (f.assign key v).find? p.toList = f.find? p.toList := by
  unfold Frame.find? Frame.assign
  rw [atPathIn?_insert hkey hheads hp hne]

theorem findIn?_assign {heads : List String} {key p : String} (hkey : isPlainName key = true)
    (hheads : key ∉ heads) (hp : PathIn heads p) (hne : p ≠ key) (given : Keyed Value) (v : Value)
    (f : Frame) (rest : List Frame) :
    findIn? given p.toList (f.assign key v :: rest) = findIn? given p.toList (f :: rest) := by
  unfold findIn?
  rw [find?_assign hkey hheads hp hne]
  rfl

theorem findIn?_assigned {key : String} (hkey : isPlainName key = true) (given : Keyed Value)
    (v : Value) (f : Frame) (rest : List Frame) :
    findIn? given key.toList (f.assign key v :: rest) = some v := by
  unfold findIn? Frame.find? Frame.assign atPathIn?
  rw [splitHead_name hkey]
  simp [Keyed.get?_insert]

/-! ## Loops -/

/-- The frame of a loop in a round in which nothing was assigned yet. -/
def roundFrame (template : String) (key : Option String) (value : String)
    (items : List (String × Value)) (round : Nat) : Frame :=
  ⟨.loop, template, [], some ⟨key, value, items, round, .running⟩⟩

theorem findIn?_roundFrame (given : Keyed Value) (path : List Char) (template : String)
    (key : Option String) (value : String) (items : List (String × Value)) (round : Nat)
    (frames : List Frame) :
    findIn? given path (roundFrame template key value items round :: frames) =
      ((LoopState.mk key value items round .running).find? path).or
        (findIn? given path frames) := by
  have hassigned : atPathIn? [] path = none := by
    unfold atPathIn?
    split <;> rfl
  have hfind : (roundFrame template key value items round).find? path =
      (LoopState.mk key value items round .running).find? path := by
    unfold Frame.find? roundFrame
    rw [hassigned]
    rfl
  rw [findIn?, hfind]
  cases (LoopState.mk key value items round .running).find? path <;> rfl

section Rounds

variable {key : Option String} {value : String} {items : List (String × Value)} {round : Nat}
  {item : String × Value}

theorem find?_value (hvalue : isPlainName value = true) (hitem : items[round]? = some item) :
    (LoopState.mk key value items round .running).find? value.toList = some item.2 := by
  have hloop : value.toList ≠ ['l', 'o', 'o', 'p'] := fun h =>
    (ne_of_isPlainName hvalue).2.1 (String.toList_injective h)
  unfold LoopState.find?
  rw [splitHead_name hvalue]
  simp [hloop, LoopState.value, hitem]

theorem find?_member (hvalue : isPlainName value = true) (hitem : items[round]? = some item)
    {k : String} (hk : isPlainName k = true) {u : Value} (hmember : item.2.member? k = some u) :
    (LoopState.mk key value items round .running).find? (value ++ "." ++ k).toList = some u := by
  have hloop : value.toList ≠ ['l', 'o', 'o', 'p'] := fun h =>
    (ne_of_isPlainName hvalue).2.1 (String.toList_injective h)
  unfold LoopState.find?
  rw [splitHead_member hvalue]
  simp [hloop, LoopState.value, hitem, atPath?_member hk hmember]

theorem find?_key {k : String} (hk : isPlainName k = true) (hne : k ≠ value)
    (hitem : items[round]? = some item) :
    (LoopState.mk (some k) value items round .running).find? k.toList =
      some (.string item.1) := by
  have hloop : k.toList ≠ ['l', 'o', 'o', 'p'] := fun h =>
    (ne_of_isPlainName hk).2.1 (String.toList_injective h)
  have hother : k.toList ≠ value.toList := fun h => hne (String.toList_injective h)
  unfold LoopState.find?
  rw [splitHead_name hk]
  simp [hloop, hother, LoopState.key, hitem]

/-- Other paths are not the loop's. -/
theorem find?_other {heads : List String} {p : String} (hp : PathIn heads p)
    (hprogress : p ∉ Context.progress.map Prod.fst) (hvalue : p ≠ value) (hheads : value ∉ heads)
    (hkey : key ≠ some p) :
    (LoopState.mk key value items round .running).find? p.toList = none := by
  have hkeys : ¬ key.map String.toList = some p.toList := by
    intro h
    obtain ⟨k, rfl, hk⟩ := Option.map_eq_some_iff.mp h
    exact hkey (congrArg some (String.toList_injective hk))
  unfold LoopState.find?
  cases hp with
  | name h =>
      have hloop : p.toList ≠ ['l', 'o', 'o', 'p'] := fun h' =>
        (ne_of_isPlainName h).2.1 (String.toList_injective h')
      have hother : p.toList ≠ value.toList := fun h => hvalue (String.toList_injective h)
      rw [splitHead_name h]
      simp [hloop, hother, hkeys]
  | @member n k hn hname _ =>
      have hloop : n.toList ≠ ['l', 'o', 'o', 'p'] := fun h' =>
        (ne_of_isPlainName hname).2.1 (String.toList_injective h')
      have hother : n.toList ≠ value.toList := fun h =>
        hheads (String.toList_injective h ▸ hn)
      rw [splitHead_member hname]
      simp only [beq_iff_eq, hloop, hother, hkeys, if_false]
  | progress h => exact absurd h hprogress

end Rounds

end Template

end FormScaffold
