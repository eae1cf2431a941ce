import TextAdventure.Proofs.Text.Case
import TextAdventure.Pattern.Compile

/-!
Backtracking over single-spaced text. A search that may go on only at the end of a word reads whole
words: what a literal, a name or a phrase of names does in front of a word is decided by comparing
words, and the ways in which a lazy repetition goes on are counted in words. The continuation carries
the restriction (`Refuses`); every lemma here turns one search over characters into a case
distinction or a `findSome?` over numbers of words.
-/
namespace TextAdventure.Regex

open Text

/-- The continuation fails in front of a character of the class. -/
def Refuses (p : Char → Bool) (k : Cursor → Option Cursor) : Prop :=
  ∀ d t n caps, p d = true → k ⟨d :: t, n, caps⟩ = none

/-- Characters that words are made of. -/
def isSolid (c : Char) : Bool := !isBlank c

theorem refuses_atEnd (p : Char → Bool) : Refuses p atEnd := fun _ _ _ _ _ => rfl

theorem all_isSolid (w : Text) (word : IsWord w) : ∀ c ∈ w, isSolid c = true :=
  fun c hc => by simp [isSolid, word.2 c hc]

theorem run_cat (r s : Regex) (c : Cursor) (k : Cursor → Option Cursor) :
    run (cat r s) c k = run r c fun d => run s d k := rfl

theorem run_notAhead (r : Regex) (c : Cursor) (k : Cursor → Option Cursor) :
    run (notAhead r) c k = if (run r c some).isSome then none else k c := rfl

/-! ### Fixed words -/

theorem runWord_cons (c d : Char) (w t : Text) (n : Nat) (caps : List Span)
    (k : Cursor → Option Cursor) :
    runWord (c :: w) ⟨d :: t, n, caps⟩ k =
      if sameLetter c d then runWord w ⟨t, n + 1, caps⟩ k else none := by
  unfold runWord
  cases same : sameLetter c d with
  | false => simp [dropWord, same]
  | true => simp [dropWord, same, Nat.add_comm, Nat.add_left_comm]

theorem runWord_word (p : Char → Bool) (k : Cursor → Option Cursor) (refuses : Refuses p k)
    (w u : Text) (ws : List Text) (n : Nat) (caps : List Span)
    (solid : ∀ c ∈ w, isBlank c = false) (inside : ∀ d ∈ u, p d = true) :
    runWord w ⟨u ++ afterWord ws, n, caps⟩ k =
      if sameLetters w u then k ⟨afterWord ws, n + u.length, caps⟩ else none := by
  -- letter by letter: the fixed word may be too short, too long, or differ in a letter
  induction w generalizing u n with
  | nil =>
    cases u with
    | nil => rfl
    | cons d u =>
      -- the fixed word ends inside the word, where the search cannot go on
      exact refuses d _ _ _ (inside d List.mem_cons_self)
  | cons c w ih =>
    cases u with
    | nil =>
      -- the fixed word goes on where the text has a space or ends
      have different : sameLetters (c :: w) [] = false := rfl
      rw [different]
      cases ws with
      | nil => rfl
      | cons v ws =>
        have space := sameLetter_space c (solid c List.mem_cons_self)
        rw [List.nil_append, afterWord_cons, runWord_cons, space]
        rfl
    | cons d u =>
      have tail := ih u (n + 1) (fun b hb => solid b (List.mem_cons_of_mem c hb))
        fun b hb => inside b (List.mem_cons_of_mem d hb)
      rw [List.cons_append, runWord_cons, tail, sameLetters_cons]
      cases sameLetter c d <;> simp [Nat.add_comm, Nat.add_left_comm]

theorem findSome?_eq_ite {α β : Type} (f : α → Option β) (q : α → Bool) (y : Option β)
    (xs : List α) (each : ∀ x ∈ xs, f x = if q x then y else none) :
    xs.findSome? f = if xs.any q then y else none := by
  induction xs with
  | nil => rfl
  | cons x xs ih =>
    have tail := ih fun z hz => each z (List.mem_cons_of_mem x hz)
    rw [List.findSome?_cons, each x List.mem_cons_self, tail, List.any_cons]
    cases q x <;> cases y <;> simp

theorem run_oneOf_word (p : Char → Bool) (k : Cursor → Option Cursor) (refuses : Refuses p k)
    (vs : List Text) (u : Text) (ws : List Text) (n : Nat) (caps : List Span)
    (solid : ∀ v ∈ vs, ∀ c ∈ v, isBlank c = false) (inside : ∀ d ∈ u, p d = true) :
    run (oneOf vs) ⟨u ++ afterWord ws, n, caps⟩ k =
      if vs.any (sameLetters · u) then k ⟨afterWord ws, n + u.length, caps⟩ else none :=
  findSome?_eq_ite _ _ _ vs fun v hv => runWord_word p k refuses v u ws n caps (solid v hv) inside

/-! ### Blanks and names -/

theorem run_blanks_afterWord (k : Cursor → Option Cursor) (u : Text) (ws : List Text) (n : Nat)
    (caps : List Span) (word : IsWord u) :
    run blanks ⟨afterWord (u :: ws), n, caps⟩ k = k ⟨u ++ afterWord ws, n + 1, caps⟩ := by
  cases u with
  | nil => exact absurd rfl word.1
  | cons d u =>
    have blank : isBlank ' ' = true := by decide
    have stop : isBlank d = false := word.2 d List.mem_cons_self
    simp only [run, runChar, afterWord_cons, blank, if_true, List.cons_append, runGreedy, stop,
      Bool.false_eq_true, if_false]

theorem run_blanks_nil (k : Cursor → Option Cursor) (n : Nat) (caps : List Span) :
    run blanks ⟨[], n, caps⟩ k = none := rfl

theorem refuses_run_blanks (k : Cursor → Option Cursor) :
    Refuses isSolid fun c => run blanks c k := by
  intro d t n caps solid
  have stop : isBlank d = false := by simpa [isSolid] using solid
  simp [run, runChar, stop]

theorem refuses_run_cat_blanks (r : Regex) (k : Cursor → Option Cursor) :
    Refuses isSolid fun c => run (cat blanks r) c k :=
  refuses_run_blanks fun c => run r c k

theorem runGreedy_word (k : Cursor → Option Cursor) (refuses : Refuses isSolid k)
    (u : Text) (ws : List Text) (n : Nat) (caps : List Span)
    (solid : ∀ c ∈ u, isBlank c = false) :
    runGreedy isNameChar caps k (u ++ afterWord ws) n =
      if u.all isNameChar then k ⟨afterWord ws, n + u.length, caps⟩ else none := by
  -- a shorter name ends inside the word, so giving characters back is of no use
  induction u generalizing n with
  | nil =>
    have stop : isNameChar ' ' = false := by decide
    cases ws with
    | nil => rfl
    | cons v ws => simp [runGreedy, stop]
  | cons d u ih =>
    have tail := ih (n + 1) fun b hb => solid b (List.mem_cons_of_mem d hb)
    have here : k ⟨d :: (u ++ afterWord ws), n, caps⟩ = none :=
      refuses d _ _ _ (by simp [isSolid, solid d List.mem_cons_self])
    rw [List.cons_append, runGreedy, tail, here, List.all_cons]
    by_cases head : isNameChar d = true <;> simp [head, Nat.add_comm, Nat.add_left_comm]

theorem run_name_word (k : Cursor → Option Cursor) (refuses : Refuses isSolid k)
    (u : Text) (ws : List Text) (n : Nat) (caps : List Span) (word : IsWord u) :
    run name ⟨u ++ afterWord ws, n, caps⟩ k =
      if u.all isNameChar then k ⟨afterWord ws, n + u.length, caps⟩ else none := by
  cases u with
  | nil => exact absurd rfl word.1
  | cons d u =>
    have tail := runGreedy_word k refuses u ws (n + 1) caps
      fun b hb => word.2 b (List.mem_cons_of_mem d hb)
    simp only [run, runChar, List.cons_append, tail, List.all_cons]
    by_cases head : isNameChar d = true <;> simp [head, Nat.add_comm, Nat.add_left_comm]

/-! ### Phrases -/

/-- Whether a captured phrase may have the word in it. -/
def admits (excluded : List Text) (u : Text) : Bool :=
  u.all isNameChar && !excluded.any (sameLetters · u)

theorem refuses_notAhead_nameChar :
    Refuses isNameChar fun c => run (notAhead nameChar) c some := by
  intro d t n caps name
  simp [run, runChar, name]

theorem run_notAhead_nameChar_afterWord (ws : List Text) (n : Nat) (caps : List Span) :
    run (notAhead nameChar) ⟨afterWord ws, n, caps⟩ some = some ⟨afterWord ws, n, caps⟩ := by
  have stop : isNameChar ' ' = false := by decide
  cases ws with
  | nil => rfl
  | cons v ws => simp [run, runChar, stop]

theorem run_nameExcept_word (excluded : List Text) (k : Cursor → Option Cursor)
    (refuses : Refuses isSolid k) (solid : ∀ v ∈ excluded, ∀ c ∈ v, isBlank c = false)
    (u : Text) (ws : List Text) (n : Nat) (caps : List Span) (word : IsWord u) :
    run (nameExcept excluded) ⟨u ++ afterWord ws, n, caps⟩ k =
      if admits excluded u then k ⟨afterWord ws, n + u.length, caps⟩ else none := by
  have plain := run_name_word k refuses u ws n caps word
  unfold nameExcept admits
  split
  next empty =>
    have none_excluded : excluded = [] := List.isEmpty_iff.mp empty
    rw [plain, none_excluded, List.any_nil, Bool.not_false, Bool.and_true]
  · by_cases names : u.all isNameChar = true
    · -- in front of a name the look-ahead sees the whole word, so it compares words
      have ahead := run_oneOf_word isNameChar _ refuses_notAhead_nameChar excluded.eraseDups u ws n
        caps (fun v hv => solid v (List.mem_eraseDups.mp hv)) (List.all_eq_true.mp names)
      have same : excluded.eraseDups.any (sameLetters · u) = excluded.any (sameLetters · u) := by
        rw [Bool.eq_iff_iff]
        simp only [List.any_eq_true, List.mem_eraseDups]
      rw [run_notAhead_nameChar_afterWord, same, ← run_cat] at ahead
      simp only [run_cat _ name, run_notAhead (cat _ _), ahead, plain, names]
      by_cases hit : excluded.any (sameLetters · u) = true <;> simp [hit]
    · simp only [run_cat _ name, run_notAhead (cat _ _), plain, names]
      simp

theorem run_nameExcept_nil (excluded : List Text) (k : Cursor → Option Cursor) (n : Nat)
    (caps : List Span) : run (nameExcept excluded) ⟨[], n, caps⟩ k = none := by
  unfold nameExcept
  split
  · rfl
  · simp [run, runChar]

theorem findSome?_congr {α β : Type} {f g : α → Option β} (xs : List α)
    (same : ∀ x ∈ xs, f x = g x) : xs.findSome? f = xs.findSome? g := by
  induction xs with
  | nil => rfl
  | cons x xs ih =>
    rw [List.findSome?_cons, List.findSome?_cons, same x List.mem_cons_self,
      ih fun y hy => same y (List.mem_cons_of_mem x hy)]

theorem findSome?_range_succ {α : Type} (f : Nat → Option α) (n : Nat) :
    (List.range (n + 1)).findSome? f =
      (f 0).or ((List.range n).findSome? fun m => f (m + 1)) := by
  rw [List.range_succ_eq_map, List.findSome?_cons, List.findSome?_map]
  cases f 0 <;> rfl

theorem refuses_runRepeated_blanks (r : Regex) (k : Cursor → Option Cursor)
    (refuses : Refuses isSolid k) (bound : Nat) :
    Refuses isSolid (runRepeated (run (cat blanks r)) k bound) := by
  intro d t n caps solid
  have here := refuses d t n caps solid
  cases bound with
  | zero => exact here
  | succ bound =>
    have step := refuses_run_cat_blanks r (runRepeated (run (cat blanks r)) k bound) d t n caps solid
    simp only [runRepeated, here, step, Option.orElse_none]

/-- Further names of a phrase: after any number of admitted words, fewest first. -/
theorem runRepeated_names (excluded : List Text) (k : Cursor → Option Cursor)
    (refuses : Refuses isSolid k) (solid : ∀ v ∈ excluded, ∀ c ∈ v, isBlank c = false)
    (ws : List Text) (proper : ∀ w ∈ ws, IsWord w) (bound : Nat) (enough : ws.length ≤ bound)
    (n : Nat) (caps : List Span) :
    runRepeated (run (cat blanks (nameExcept excluded))) k bound ⟨afterWord ws, n, caps⟩ =
      (List.range ((ws.takeWhile (admits excluded)).length + 1)).findSome? fun m =>
        k ⟨afterWord (ws.drop m), n + (afterWord (ws.take m)).length, caps⟩ := by
  -- every repetition reads one word, so as many repetitions as words are enough
  induction ws generalizing bound n with
  | nil =>
    cases bound with
    | zero => simp [runRepeated]
    | succ bound => simp [runRepeated, run, runChar]
  | cons u us ih =>
    obtain ⟨bound, rfl⟩ : ∃ b, bound = b + 1 := ⟨bound - 1, by simp at enough; omega⟩
    have word : IsWord u := proper u List.mem_cons_self
    have step : run (cat blanks (nameExcept excluded)) ⟨afterWord (u :: us), n, caps⟩
          (runRepeated (run (cat blanks (nameExcept excluded))) k bound) =
        if admits excluded u then
          runRepeated (run (cat blanks (nameExcept excluded))) k bound
            ⟨afterWord us, n + 1 + u.length, caps⟩
        else none := by
      rw [run, run_blanks_afterWord _ u us n caps word]
      exact run_nameExcept_word excluded _ (refuses_runRepeated_blanks _ k refuses bound) solid u us
        (n + 1) caps word
    have tail := ih (fun w hw => proper w (List.mem_cons_of_mem u hw)) bound
      (by simpa using enough) (n + 1 + u.length)
    rw [runRepeated, step, Option.orElse_eq_or]
    by_cases admitted : admits excluded u = true
    · rw [if_pos admitted, List.takeWhile_cons_of_pos admitted, List.length_cons,
        findSome?_range_succ, tail]
      simp [Nat.add_assoc, Nat.add_comm, Nat.add_left_comm]
    · simp [admitted]

theorem length_unwords_cons (u : Text) (us : List Text) :
    (unwords (u :: us)).length = u.length + (afterWord us).length := by
  rw [unwords_cons, List.length_append]

theorem length_le_length_afterWord (ws : List Text) : ws.length ≤ (afterWord ws).length := by
  induction ws with
  | nil => exact Nat.le_refl 0
  | cons w ws ih =>
    rw [afterWord_cons, List.length_cons, List.length_cons, List.length_append]
    omega

theorem run_phrase (excluded : List Text) (k : Cursor → Option Cursor)
    (refuses : Refuses isSolid k) (solid : ∀ v ∈ excluded, ∀ c ∈ v, isBlank c = false)
    (ws : List Text) (proper : ∀ w ∈ ws, IsWord w) (n : Nat) (caps : List Span) :
    run (phrase excluded) ⟨unwords ws, n, caps⟩ k =
      ((List.range (ws.takeWhile (admits excluded)).length).map (· + 1)).findSome? fun m =>
        k ⟨afterWord (ws.drop m), n + (unwords (ws.take m)).length,
          ⟨n, n + (unwords (ws.take m)).length⟩ :: caps⟩ := by
  -- the continuation that closes the capture, to which each length of the phrase is offered
  let record : Cursor → Option Cursor := fun d =>
    k { d with captured := ⟨n, d.position⟩ :: d.captured }
  have refused : Refuses isSolid record := fun d t m held solid => refuses d t m _ solid
  have opened : run (phrase excluded) ⟨unwords ws, n, caps⟩ k =
      run (nameExcept excluded) ⟨unwords ws, n, caps⟩ fun c =>
        runRepeated (run (cat blanks (nameExcept excluded))) record c.rest.length c := rfl
  rw [opened, List.findSome?_map]
  cases ws with
  | nil => exact run_nameExcept_nil excluded _ n caps
  | cons u us =>
    have first : Refuses isSolid fun c =>
        runRepeated (run (cat blanks (nameExcept excluded))) record c.rest.length c :=
      fun d t m held solid => refuses_runRepeated_blanks _ record refused _ d t m held solid
    have further := runRepeated_names excluded record refused solid us
      (fun w hw => proper w (List.mem_cons_of_mem u hw)) (afterWord us).length
      (length_le_length_afterWord us) (n + u.length) caps
    rw [unwords_cons, run_nameExcept_word excluded _ first solid u us n caps
      (proper u List.mem_cons_self)]
    by_cases admitted : admits excluded u = true
    · rw [if_pos admitted, List.takeWhile_cons_of_pos admitted, List.length_cons, further]
      simp only [record, Function.comp_def, List.drop_succ_cons, List.take_succ_cons,
        length_unwords_cons, Nat.add_assoc]
    · simp [admitted]

/-! ### Any words -/

theorem runLazy_word (p : Char → Bool) (caps : List Span) (k : Cursor → Option Cursor)
    (refuses : Refuses isSolid k) (u t : Text) (n : Nat) (solid : ∀ c ∈ u, isSolid c = true)
    (inside : ∀ c ∈ u, p c = true) :
    runLazy p caps k (u ++ t) n = runLazy p caps k t (n + u.length) := by
  -- inside the word the search cannot go on, so the lazy reader has to read further
  induction u generalizing n with
  | nil => rfl
  | cons d u ih =>
    have tail := ih (n + 1) (fun c hc => solid c (List.mem_cons_of_mem d hc))
      fun c hc => inside c (List.mem_cons_of_mem d hc)
    have here := refuses d (u ++ t) n caps (solid d List.mem_cons_self)
    rw [List.cons_append, runLazy, here, inside d List.mem_cons_self, Option.orElse_none,
      if_pos rfl, tail, List.length_cons, Nat.add_assoc, Nat.add_comm 1]

theorem solid_ne_newline (c : Char) (solid : isSolid c = true) : (c != '\n') = true := by
  rw [bne_iff_ne]
  intro newline
  rw [newline] at solid
  exact absurd solid (by decide)

theorem runLazy_afterWord (caps : List Span) (k : Cursor → Option Cursor)
    (refuses : Refuses isSolid k) (ws : List Text) (proper : ∀ w ∈ ws, IsWord w) (n : Nat) :
    runLazy (· != '\n') caps k (afterWord ws) n =
      (List.range (ws.length + 1)).findSome? fun m =>
        k ⟨afterWord (ws.drop m), n + (afterWord (ws.take m)).length, caps⟩ := by
  induction ws generalizing n with
  | nil => simp [runLazy]
  | cons u us ih =>
    -- the search may go on here, or the space and all of the next word are read
    have solid := all_isSolid u (proper u List.mem_cons_self)
    have word := runLazy_word (· != '\n') caps k refuses u (afterWord us) (n + 1) solid
      fun c hc => solid_ne_newline c (solid c hc)
    have tail := ih (fun w hw => proper w (List.mem_cons_of_mem u hw)) (n + 1 + u.length)
    have space : (' ' != '\n') = true := by decide
    rw [List.length_cons, findSome?_range_succ, afterWord_cons, runLazy, word, tail, space,
      if_pos rfl, Option.orElse_eq_or]
    simp [Nat.add_assoc, Nat.add_comm, Nat.add_left_comm]

theorem run_anything (k : Cursor → Option Cursor) (refuses : Refuses isSolid k)
    (ws : List Text) (proper : ∀ w ∈ ws, IsWord w) (n : Nat) (caps : List Span) :
    run anything ⟨unwords ws, n, caps⟩ k =
      ((List.range ws.length).map (· + 1)).findSome? fun m =>
        k ⟨afterWord (ws.drop m), n + (unwords (ws.take m)).length, caps⟩ := by
  cases ws with
  | nil => rfl
  | cons u us =>
    have word : IsWord u := proper u List.mem_cons_self
    have tail := runLazy_afterWord caps k refuses us
      (fun w hw => proper w (List.mem_cons_of_mem u hw)) (n + u.length)
    cases u with
    | nil => exact absurd rfl word.1
    | cons d u =>
      have solid := all_isSolid (d :: u) word
      have first := solid_ne_newline d (solid d List.mem_cons_self)
      have rest := runLazy_word (· != '\n') caps k refuses u (afterWord us) (n + 1)
        (fun c hc => solid c (List.mem_cons_of_mem d hc))
        fun c hc => solid_ne_newline c (solid c (List.mem_cons_of_mem d hc))
      have length : n + 1 + u.length = n + (d :: u).length := by
        rw [List.length_cons]
        omega
      have opened : run anything ⟨unwords ((d :: u) :: us), n, caps⟩ k =
          runLazy (· != '\n') caps k (u ++ afterWord us) (n + 1) := by
        simp only [run, runChar, unwords_cons, List.cons_append, first, if_true]
      rw [opened, rest, length, tail, List.findSome?_map]
      simp only [Function.comp_def, List.drop_succ_cons, List.take_succ_cons, length_unwords_cons,
        List.length_cons, Nat.add_assoc]

end TextAdventure.Regex
