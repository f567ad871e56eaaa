import Pihpsdr.Lib.Decimal

/-!
Text in C: the functions `fgets` and `strtok`, and names whose parts are separated by dots. A text is
the list of its character codes.
-/

namespace Text

def newline : Int := 10

def hash : Int := 35

def dot : Int := 46

def equals : Int := 61

def codes (s : String) : List Int :=
  s.toList.map fun c => (c.toNat : Int)

-- a line with its newline, but not more than `n` characters of it, and what follows
def fgets : Nat → List Int → List Int × List Int
  | 0, cs => ([], cs)
  | _ + 1, [] => ([], [])
  | n + 1, c :: cs =>
    if c = newline then
      ([c], cs)
    else
      let (line, rest) := fgets n cs
      (c :: line, rest)

-- `fgets` until the end of the file, at most `fuel` times
def readLines (n : Nat) : Nat → List Int → List (List Int)
  | 0, _ => []
  | _ + 1, [] => []
  | fuel + 1, c :: cs =>
    let (line, rest) := fgets n (c :: cs)
    line :: readLines n fuel rest

-- the next token up to the delimiter `d`, and what follows this delimiter
def strtok (d : Int) (cs : List Int) : Option (List Int × List Int) :=
  match cs.dropWhile (fun c => decide (c = d)) with
  | [] => none
  | c :: cs =>
    some ((c :: cs).takeWhile (fun c => decide (c ≠ d)),
      ((c :: cs).dropWhile (fun c => decide (c ≠ d))).tail)

def dotted (parts : List (List Int)) : List Int :=
  [dot].intercalate parts

theorem codes_injective : Function.Injective codes := by
  intro s t h
  have hcode : Function.Injective fun c : Char => (c.toNat : Int) := by
    intro c d hcd
    exact Char.toNat_inj.mp (Int.ofNat_inj.mp hcd)
  apply String.toList_inj.mp
  exact List.map_injective_iff.mpr hcode h

-- names are the same only if all of their parts are
theorem dotted_inj {parts parts' : List (List Int)} (hparts : ∀ p ∈ parts, dot ∉ p)
    (hparts' : ∀ p ∈ parts', dot ∉ p) (hne : parts ≠ []) (hne' : parts' ≠ [])
    (h : dotted parts = dotted parts')
    : parts = parts' := by
  rw [← List.splitOn_intercalate dot hparts hne, ← List.splitOn_intercalate dot hparts' hne']
  exact congrArg (List.splitOn dot) h

theorem not_mem_dotted {c : Int} (hc : c ≠ dot) {parts : List (List Int)}
    (hparts : ∀ p ∈ parts, c ∉ p)
    : c ∉ dotted parts := by
  unfold dotted
  induction parts with
  | nil => simp
  | cons p parts ih =>
    have hp := hparts p List.mem_cons_self
    have hrest := ih fun q hq => hparts q (List.mem_cons_of_mem p hq)
    cases parts with
    | nil => simpa using hp
    | cons q parts =>
      rw [List.intercalate_cons_cons, List.mem_append, List.mem_append, not_or, not_or]
      refine ⟨⟨hp, ?_⟩, hrest⟩
      rwa [List.mem_singleton]

theorem head?_dotted {part : List Int} (h : part ≠ []) (parts : List (List Int))
    : (dotted (part :: parts)).head? = part.head? := by
  cases part with
  | nil => contradiction
  | cons c cs =>
    cases parts with
    | nil => rfl
    | cons q parts => rfl

theorem fgets_line {line : List Int} (h : newline ∉ line) {n : Nat} (hn : line.length < n)
    (rest : List Int)
    : fgets n (line ++ newline :: rest) = (line ++ [newline], rest) := by
  induction line generalizing n with
  | nil =>
    match n with
    | n + 1 => rw [List.nil_append, fgets, if_pos rfl, List.nil_append]
  | cons c line ih =>
    rw [List.mem_cons, not_or] at h
    match n with
    | n + 1 =>
      rw [List.length_cons] at hn
      rw [List.cons_append, fgets, if_neg (Ne.symm h.1), ih h.2 (by omega)]
      rfl

theorem readLines_lines {n : Nat} {lines : List (List Int)}
    (hlines : ∀ line ∈ lines, newline ∉ line ∧ line.length < n) {fuel : Nat}
    (hfuel : lines.length ≤ fuel)
    : readLines n fuel (lines.flatMap fun line => line ++ [newline])
        =
      lines.map fun line => line ++ [newline] := by
  induction lines generalizing fuel with
  | nil => cases fuel <;> rfl
  | cons line lines ih =>
    obtain ⟨hnew, hlen⟩ := hlines line List.mem_cons_self
    have hrest : ∀ line ∈ lines, newline ∉ line ∧ line.length < n :=
      fun l hl => hlines l (List.mem_cons_of_mem line hl)
    match fuel with
    | fuel + 1 =>
      rw [List.length_cons] at hfuel
      have hget := fgets_line hnew hlen (lines.flatMap fun line => line ++ [newline])
      rw [List.flatMap_cons, List.append_assoc, List.singleton_append, List.map_cons]
      cases hcs : line ++ newline :: lines.flatMap (fun line => line ++ [newline]) with
      | nil => simp at hcs
      | cons c cs =>
        rw [hcs] at hget
        rw [readLines, hget]
        dsimp only
        rw [ih hrest (by omega)]

theorem length_le_length_flatMap (lines : List (List Int))
    : lines.length ≤ (lines.flatMap fun line => line ++ [newline]).length := by
  induction lines with
  | nil => simp
  | cons line lines ih =>
    rw [List.flatMap_cons, List.length_append, List.length_append, List.length_cons,
      List.length_singleton]
    omega

theorem takeWhile_of_not_mem {d : Int} {cs : List Int} (h : d ∉ cs)
    : cs.takeWhile (fun c => decide (c ≠ d)) = cs := by
  apply List.takeWhile_eq_self_iff.mpr
  intro c hc
  have hne : c ≠ d := by
    intro heq
    rw [heq] at hc
    contradiction
  simpa using hne

-- the token ends where the delimiter stands
theorem strtok_append {d : Int} {cs : List Int} (h : d ∉ cs) (hne : cs ≠ []) (rest : List Int)
    : strtok d (cs ++ d :: rest) = some (cs, rest) := by
  cases cs with
  | nil => contradiction
  | cons c cs =>
    have hc : c ≠ d := by
      intro heq
      rw [heq] at h
      exact h List.mem_cons_self
    have hdrop : (c :: cs ++ d :: rest).dropWhile (fun c => decide (c = d)) = c :: cs ++ d :: rest := by
      rw [List.cons_append, List.dropWhile_cons, if_neg (by simpa using hc)]
    have htake : (c :: cs ++ d :: rest).takeWhile (fun c => decide (c ≠ d)) = c :: cs := by
      rw [Decimal.takeWhile_append_cons (by simp), takeWhile_of_not_mem h]
    have hdropped : (c :: cs ++ d :: rest).dropWhile (fun c => decide (c ≠ d)) = d :: rest := by
      have hsplit := List.takeWhile_append_dropWhile (p := fun c => decide (c ≠ d))
        (l := c :: cs ++ d :: rest)
      rw [htake] at hsplit
      exact List.append_cancel_left hsplit
    unfold strtok
    rw [hdrop]
    dsimp only [List.cons_append] at htake hdropped ⊢
    rw [htake, hdropped]
    rfl

theorem not_mem_of_strtok {d : Int} {cs token rest : List Int}
    (h : strtok d cs = some (token, rest))
    : d ∉ token := by
  unfold strtok at h
  split at h
  . contradiction
  next c cs _ =>
    rw [Option.some.injEq, Prod.mk.injEq] at h
    rw [← h.1]
    intro hmem
    have := List.mem_takeWhile_imp hmem
    simp at this

theorem ne_nil_of_strtok {d : Int} {cs token rest : List Int}
    (h : strtok d cs = some (token, rest))
    : token ≠ [] := by
  unfold strtok at h
  split at h
  . contradiction
  next c cs hdrop =>
    have hc : c ≠ d := by
      intro heq
      have hhead := List.head_dropWhile_not (fun c => decide (c = d)) (l := _) (by rw [hdrop]; simp)
      simp [hdrop, heq] at hhead
    rw [Option.some.injEq, Prod.mk.injEq, List.takeWhile_cons, if_pos (by simpa using hc)] at h
    rw [← h.1]
    simp

end Text
