import FormScaffold.Proofs.Text.Replacing

/-!
# Texts read from the left

A text that is written part by part is read part by part.  A reader takes the written form of a part
off the front of a text, whatever follows it, or refuses the text.  What may be missing is tried,
and what may come several times is tried until it is refused, so a text with such parts is read
as it was written if what follows them is refused.
-/

namespace FormScaffold.Text

theorem not_mem_append {c : Char} {s t : String} (hs : c ∉ s.toList) (ht : c ∉ t.toList) :
    c ∉ (s ++ t).toList := by
  rw [String.toList_append, List.mem_append, not_or]
  exact ⟨hs, ht⟩

/-- What is made of the start of a text, with what is left of the text. -/
abbrev Reader (α : Type) : Type := StateT (List Char) Option α

namespace Reader

variable {α β : Type}

/-- A fixed text. -/
def exactly (s : String) : Reader Unit := fun cs =>
  (afterPrefix? s.toList cs).map fun rest => ((), rest)

/-- The text before a character, which is dropped. -/
def upTo (c : Char) : Reader String := fun cs =>
  (cut? [c] cs).map fun p => (String.ofList p.1, p.2)

/-- A result that may be missing. -/
def given (o : Option α) : Reader α := fun cs => o.map fun a => (a, cs)

/-- What a reader makes of the start, if it does not refuse the text. -/
def optionally (r : Reader α) : Reader (Option α) := fun cs =>
  match r cs with
  | some (a, rest) => some (some a, rest)
  | none => some (none, cs)

/-- What the first of two readers makes of the start, or the other one if it refuses the text. -/
def firstOf (r r' : Reader α) : Reader α := fun cs => (r cs).or (r' cs)

/-- What a reader makes of the start time and again, for a bound on the number of times. -/
def atMost (r : Reader α) : Nat → Reader (List α)
  | 0 => pure []
  | n + 1 => fun cs =>
      match r cs with
      | some (a, rest) => (atMost r n rest).map fun p => (a :: p.1, p.2)
      | none => some ([], cs)

/-- What a reader makes of the start time and again, until it refuses the text. -/
def repeatedly (r : Reader α) : Reader (List α) := fun cs => r.atMost cs.length cs

/-- The number that the digits at the start stand for. -/
def digits : Reader Nat := fun cs =>
  if (cs.takeWhile Char.isDigit).isEmpty then none
  else some (Nat.ofDigitChars 10 (cs.takeWhile Char.isDigit) 0, cs.dropWhile Char.isDigit)

/-- The text before an ending that it has. -/
def withoutEnd? (ending s : String) : Option String :=
  (afterPrefix? ending.toList.reverse s.toList.reverse).map fun cs => String.ofList cs.reverse

/-- The text before the next blank, without an ending that it must have. -/
def word (ending : String) : Reader String := do
  let written ← upTo ' '
  given (withoutEnd? ending written)

/-! ## What is read -/

/-- The reader takes a text off the front of any text and makes a result of it. -/
def Reads (r : Reader α) (s : String) (a : α) : Prop :=
  ∀ rest, r (s.toList ++ rest) = some (a, rest)

/-- The reader makes nothing of what starts with a text. -/
def Refuses (r : Reader α) (s : String) : Prop := ∀ rest, r (s.toList ++ rest) = none

theorem bind_apply (r : Reader α) (f : α → Reader β) (cs : List Char) :
    (r >>= f) cs = (r cs).bind fun p => f p.1 p.2 := rfl

variable {r : Reader α} {f : α → Reader β} {s t : String} {a : α} {b : β}

theorem Reads.pure (a : α) : Reads (Pure.pure a) "" a := fun _ => rfl

theorem Reads.bind (hr : Reads r s a) (hf : Reads (f a) t b) : Reads (r >>= f) (s ++ t) b := by
  intro rest
  rw [bind_apply, String.toList_append, List.append_assoc, hr, Option.bind_some, hf]

/-- A reader whose last part takes nothing more off the text. -/
theorem Reads.last (hr : Reads r s a) (hf : Reads (f a) "" b) : Reads (r >>= f) s b := by
  have h := hr.bind hf
  rwa [String.append_empty] at h

theorem reads_given {o : Option α} (ho : o = some a) : Reads (given o) "" a := fun rest => by
  rw [given, ho]
  rfl

theorem Reads.given {o : Option α} (ho : o = some a) (hf : Reads (f a) t b) :
    Reads (Reader.given o >>= f) t b := by
  have h := (reads_given ho).bind hf
  rwa [String.empty_append] at h

theorem reads_exactly (s : String) : Reads (exactly s) s () := fun rest => by
  rw [exactly, afterPrefix?_append, Option.map_some]

theorem reads_upTo {c : Char} {stop : String} (hstop : stop.toList = [c]) (h : c ∉ s.toList) :
    Reads (upTo c) (s ++ stop) s := by
  intro rest
  rw [upTo, String.toList_append, hstop, List.append_assoc, List.singleton_append, cut?_first h,
    Option.map_some, String.ofList_toList]

theorem withoutEnd?_append (s ending : String) : withoutEnd? ending (s ++ ending) = some s := by
  unfold withoutEnd?
  rw [String.toList_append, List.reverse_append, afterPrefix?_append, Option.map_some,
    List.reverse_reverse, String.ofList_toList]

theorem of_withoutEnd? {ending s before : String} (h : withoutEnd? ending s = some before) :
    s = before ++ ending := by
  obtain ⟨cs, hcs, rfl⟩ := Option.map_eq_some_iff.mp h
  have hchars := of_afterPrefix? hcs
  rw [← String.toList_inj, String.toList_append, String.toList_ofList,
    ← List.reverse_reverse s.toList, hchars, List.reverse_append, List.reverse_reverse]

/-- A text whose last character is another one than that of an ending does not have the ending. -/
theorem withoutEnd?_eq_none {ending s : String} {c : Char}
    (hending : ending.toList.getLast? = some c) (hs : s.toList.getLast? ≠ some c) :
    withoutEnd? ending s = none := by
  refine Option.eq_none_iff_forall_ne_some.mpr fun before hbefore => hs ?_
  rw [of_withoutEnd? hbefore, String.toList_append, List.getLast?_append, hending, Option.some_or]

/-- An ending that stands or does not, behind a text without it. -/
theorem withoutEnd?_flag {ending s : String} (h : withoutEnd? ending s = none) (stands : Bool) :
    withoutEnd? ending (s ++ if stands then ending else "") = if stands then some s else none := by
  cases stands with
  | true => exact withoutEnd?_append s ending
  | false =>
      rw [if_neg Bool.false_ne_true, if_neg Bool.false_ne_true, String.append_empty, h]

theorem Reads.word {s ending : String} {f : String → Reader β} (hs : ' ' ∉ s.toList)
    (hending : ' ' ∉ ending.toList) (hf : Reads (f s) t b) :
    Reads (Reader.word ending >>= f) (s ++ ending ++ " " ++ t) b := by
  have hwritten : ' ' ∉ (s ++ ending).toList :=
    not_mem_append hs hending
  unfold Reader.word
  rw [bind_assoc]
  exact (reads_upTo rfl hwritten).bind (.given (withoutEnd?_append s ending) hf)

/-! ## What is refused -/

theorem Refuses.append (h : Refuses r s) (t : String) : Refuses r (s ++ t) := by
  intro rest
  rw [String.toList_append, List.append_assoc, h]

theorem Refuses.bind (h : Refuses r s) (f : α → Reader β) : Refuses (r >>= f) s := by
  intro rest
  rw [bind_apply, h, Option.bind_none]

/-- A reader that goes on refuses what its next part refuses. -/
theorem Reads.refuses (hr : Reads r s a) (hf : Refuses (f a) t) : Refuses (r >>= f) (s ++ t) := by
  intro rest
  rw [bind_apply, String.toList_append, List.append_assoc, hr, Option.bind_some, hf]

/-- A word with another ending is refused. -/
theorem refuses_word {s ending stop : String} {c : Char} (hs : ' ' ∉ s.toList)
    (hstop : ' ' ∉ stop.toList) (hending : ending.toList.getLast? = some c)
    (hlast : (s ++ stop).toList.getLast? ≠ some c) : Refuses (word ending) (s ++ stop ++ " ") := by
  have hwritten : ' ' ∉ (s ++ stop).toList :=
    not_mem_append hs hstop
  intro rest
  rw [word, bind_apply, reads_upTo rfl hwritten, Option.bind_some,
    withoutEnd?_eq_none hending hlast]
  rfl

/-- Two texts differ at a place that both have. -/
def differs : List Char → List Char → Bool
  | c :: cs, d :: ds => c != d || differs cs ds
  | _, _ => false

theorem afterPrefix?_of_differs {ps cs : List Char} (h : differs ps cs = true)
    (rest : List Char) : afterPrefix? ps (cs ++ rest) = none := by
  induction ps generalizing cs with
  | nil => cases h
  | cons p ps ih =>
      cases cs with
      | nil => cases h
      | cons c cs =>
          unfold afterPrefix?
          rw [List.cons_append]
          simp only
          -- where the first characters agree, the texts differ further on
          by_cases heq : p = c
          · subst heq
            rw [if_pos (beq_self_eq_true p)]
            exact ih (by simpa [differs] using h)
          · rw [if_neg (by simpa using heq)]

theorem refuses_exactly (h : differs s.toList t.toList = true) : Refuses (exactly s) t := by
  intro rest
  rw [exactly, afterPrefix?_of_differs h, Option.map_none]

/-- A reader that starts with a fixed text refuses what differs from it. -/
theorem refuses_start {f : Unit → Reader β} (h : differs s.toList t.toList = true) :
    Refuses (exactly s >>= f) t :=
  (refuses_exactly h).bind f

/-! ## Numbers -/

/-- The digits of a number, in front of what does not start with another one. -/
theorem Reads.digits {n : Nat} {f : Nat → Reader β} {stop : String}
    (hstop : stop.toList.head?.map Char.isDigit = some false) (hf : Reads (f n) (stop ++ t) b) :
    Reads (Reader.digits >>= f) (toString n ++ (stop ++ t)) b := by
  have hchars : (toString n).toList = Nat.toDigits 10 n := Nat.toList_repr
  have hall : ∀ c ∈ Nat.toDigits 10 n, c.isDigit = true := fun c hc =>
    Nat.isDigit_of_mem_toDigits (by decide) (by decide) hc
  obtain ⟨c, hc, hnot⟩ := Option.map_eq_some_iff.mp hstop
  obtain ⟨behind, hbehind⟩ := List.head?_eq_some_iff.mp hc
  intro rest
  have htext : (toString n ++ (stop ++ t)).toList ++ rest =
      Nat.toDigits 10 n ++ c :: (behind ++ t.toList ++ rest) := by
    rw [String.toList_append, String.toList_append, hchars, hbehind, List.append_assoc,
      List.cons_append, List.cons_append]
  have htake : (Nat.toDigits 10 n ++ c :: (behind ++ t.toList ++ rest)).takeWhile Char.isDigit =
      Nat.toDigits 10 n := by
    rw [List.takeWhile_append_of_pos hall, List.takeWhile_cons_of_neg (by simp [hnot]),
      List.append_nil]
  have hdrop : (Nat.toDigits 10 n ++ c :: (behind ++ t.toList ++ rest)).dropWhile Char.isDigit =
      (stop ++ t).toList ++ rest := by
    rw [List.dropWhile_append_of_pos hall, List.dropWhile_cons_of_neg (by simp [hnot]),
      String.toList_append, hbehind, List.cons_append, List.cons_append]
  rw [bind_apply, Reader.digits, htext, htake, hdrop,
    if_neg (by simp), Option.bind_some,
    Nat.ofDigitChars_toDigits (by decide) (by decide)]
  exact hf rest

/-! ## Parts that may be missing -/

/-- A part that is there, in front of what is read behind it. -/
theorem Reads.optionally_some {f : Option α → Reader β} (hr : Reads r s a)
    (hf : Reads (f (some a)) t b) : Reads (optionally r >>= f) (s ++ t) b := by
  intro rest
  rw [bind_apply, optionally, String.toList_append, List.append_assoc, hr]
  exact hf rest

/-- A part that is missing where it is refused. -/
theorem Reads.optionally_none {f : Option α → Reader β} (hr : Refuses r t)
    (hf : Reads (f none) t b) : Reads (optionally r >>= f) t b := by
  intro rest
  rw [bind_apply, optionally, hr]
  exact hf rest

/-- What is tried in vain is no help against what refuses the text behind it. -/
theorem Refuses.optionally_none {f : Option α → Reader β} (hr : Refuses r t)
    (hf : Refuses (f none) t) : Refuses (optionally r >>= f) t := by
  intro rest
  rw [bind_apply, optionally, hr]
  exact hf rest

/-! ## Either of two parts -/

theorem Reads.firstOf_left {r' : Reader α} (hr : Reads r s a) : Reads (firstOf r r') s a := by
  intro rest
  rw [firstOf, hr, Option.some_or]

theorem Reads.firstOf_right {r' : Reader α} (hr : Refuses r s) (hr' : Reads r' s a) :
    Reads (firstOf r r') s a := by
  intro rest
  rw [firstOf, hr, hr', Option.none_or]

/-! ## A text that stands or does not -/

theorem Reads.flag {mark : String} {stands : Bool} {f : Option Unit → Reader β}
    (ht : Refuses (exactly mark) t) (hf : Reads (f (if stands then some () else none)) t b) :
    Reads (optionally (exactly mark) >>= f) ((if stands then mark else "") ++ t) b := by
  cases stands with
  | true => exact .optionally_some (reads_exactly mark) hf
  | false =>
      rw [if_neg Bool.false_ne_true, String.empty_append]
      exact .optionally_none ht hf

theorem Refuses.flag {mark : String} {stands : Bool} (hmark : Refuses r mark) (ht : Refuses r t) :
    Refuses r ((if stands then mark else "") ++ t) := by
  cases stands with
  | true => exact hmark.append t
  | false =>
      rw [if_neg Bool.false_ne_true, String.empty_append]
      exact ht

/-! ## Parts in turn -/

section Repeated

variable {γ : Type} {write : γ → String} {told : γ → α} {xs : List γ}

theorem atMost_join (hxs : ∀ x ∈ xs, Reads r (write x) (told x)) (ht : Refuses r t) {n : Nat}
    (hn : xs.length ≤ n) (rest : List Char) :
    r.atMost n ((String.join (xs.map write)).toList ++ (t.toList ++ rest)) =
      some (xs.map told, t.toList ++ rest) := by
  induction xs generalizing n with
  | nil =>
      cases n with
      | zero => rfl
      | succ n =>
          unfold atMost
          rw [List.map_nil, String.join_nil, String.toList_empty, List.nil_append, ht]
          rfl
  | cons x xs ih =>
      obtain ⟨n, rfl⟩ := Nat.exists_eq_succ_of_ne_zero (Nat.ne_of_gt (Nat.lt_of_lt_of_le
        (Nat.succ_pos _) hn))
      unfold atMost
      rw [List.map_cons, String.join_cons, String.toList_append, List.append_assoc,
        hxs x List.mem_cons_self]
      simp only
      rw [ih (fun x hx => hxs x (List.mem_cons_of_mem _ hx)) (Nat.le_of_succ_le_succ hn)]
      rfl

end Repeated

/-- What is refused at once is no help against what refuses the text behind it. -/
theorem Refuses.repeatedly_nil {f : List α → Reader β} (hr : Refuses r t) (hf : Refuses (f []) t) :
    Refuses (r.repeatedly >>= f) t := by
  intro rest
  have hnone : r.repeatedly (t.toList ++ rest) = some ([], t.toList ++ rest) := by
    unfold repeatedly
    cases (t.toList ++ rest).length with
    | zero => rfl
    | succ n =>
        unfold atMost
        rw [hr]
  rw [bind_apply, hnone]
  exact hf rest

section Repeated

variable {γ : Type} {write : γ → String} {told : γ → α} {xs : List γ}

/-- Texts that are put together have at least as many characters as they are, if none is empty. -/
theorem length_le_join (h : ∀ x ∈ xs, (write x).toList ≠ []) :
    xs.length ≤ (String.join (xs.map write)).toList.length := by
  induction xs with
  | nil => exact Nat.zero_le _
  | cons x xs ih =>
      have hfirst := List.length_pos_iff.mpr (h x List.mem_cons_self)
      have hrest := ih fun x hx => h x (List.mem_cons_of_mem _ hx)
      rw [List.map_cons, String.join_cons, String.toList_append, List.length_append,
        List.length_cons]
      omega

/-- Parts in turn, in front of what is refused as another of them. -/
theorem Reads.repeatedly_map {f : List α → Reader β}
    (hxs : ∀ x ∈ xs, Reads r (write x) (told x)) (ht : Refuses r t)
    (hf : Reads (f (xs.map told)) t b) :
    Reads (r.repeatedly >>= f) (String.join (xs.map write) ++ t) b := by
  -- no part is empty, since what follows is refused
  have hgiven : ∀ x ∈ xs, (write x).toList ≠ [] := by
    intro x hx hempty
    have hread := hxs x hx (t.toList ++ [])
    rw [hempty, List.nil_append, ht] at hread
    cases hread
  have hbound := length_le_join hgiven
  intro rest
  rw [bind_apply, Reader.repeatedly, String.toList_append, List.append_assoc,
    atMost_join hxs ht (by rw [List.length_append]; omega)]
  exact hf rest

end Repeated

theorem Reads.repeatedly {xs : List α} {write : α → String} {f : List α → Reader β}
    (hxs : ∀ x ∈ xs, Reads r (write x) x) (ht : Refuses r t) (hf : Reads (f xs) t b) :
    Reads (r.repeatedly >>= f) (String.join (xs.map write) ++ t) b := by
  rw [← List.map_id xs] at hf
  exact .repeatedly_map hxs ht hf

end Reader

end FormScaffold.Text
