import Mathlib.Algebra.Order.BigOperators.Group.List
import Mathlib.Data.List.Infix
import Mathlib.Data.List.TakeWhile
import Mathlib.Data.String.Basic
import Mathlib.Tactic.Linarith
import Mathlib.Tactic.Ring
import Worldsmith.Proofs.Session.Storage
import Worldsmith.Session.Knowledge

/-!
# The nouns in files

A kind that a file makes or renames is called by a stretch of one of the file's lines, up to number
and case. So there are no more nouns in files than such stretches, and their number is bounded by
the size of the files.

## Main definitions

* `Name.nouns` — what a kind can be called by a stretch of a line.
* `Storage.nouns` — what kinds can be called by any line of any file.

## Main statements

* `Storage.length_nouns_lt` — there are fewer of them than `Knowledge.enoughLoads`.
-/

namespace Worldsmith

/-! ## Stretches -/

section Stretches

variable {α : Type}

/-- The stretches of a list, none of them empty. -/
def stretches : List α → List (List α)
  | [] => []
  | a :: rest => rest.inits.map (a :: ·) ++ stretches rest

theorem mem_stretches {part list : List α} (some : part ≠ []) (isInfix : part <:+: list) :
    part ∈ stretches list := by
  induction list with
  | nil => exact absurd (List.eq_nil_of_infix_nil isInfix) some
  | cons a rest ih =>
    rw [stretches, List.mem_append]
    rcases List.infix_cons_iff.mp isInfix with start | later
    · obtain ⟨b, part, rfl⟩ := List.exists_cons_of_ne_nil some
      obtain ⟨rfl, after⟩ := List.cons_prefix_cons.mp start
      exact .inl (List.mem_map_of_mem ((List.mem_inits _ _).mpr after))
    · exact .inr (ih later)

theorem length_stretches (list : List α) :
    2 * (stretches list).length = list.length * (list.length + 1) := by
  induction list with
  | nil => rfl
  | cons a rest ih =>
    rw [stretches, List.length_append, List.length_map, List.length_inits, Nat.mul_add, ih,
      List.length_cons]
    ring

/-- Things whose numbers grow like the numbers of stretches are no more than the stretches of
everything put together. -/
theorem length_flatMap_le {β : Type} {f : α → List β} {size : α → Nat} (list : List α)
    (few : ∀ a ∈ list, (f a).length ≤ 2 * size a * (size a + 1)) :
    (list.flatMap f).length ≤ 2 * (list.map size).sum * ((list.map size).sum + 1) := by
  induction list with
  | nil => simp
  | cons a rest ih =>
    obtain ⟨first, others⟩ := List.forall_mem_cons.mp few
    rw [List.flatMap_cons, List.length_append, List.map_cons, List.sum_cons]
    have := ih others
    generalize (rest.map size).sum = total at this ⊢
    nlinarith

end Stretches

/-! ## Lengths of texts -/

namespace Text

theorem length_trim_le (s : String) : (trim s).length ≤ s.length := by
  have front := List.length_dropWhile_le isBlank s.toList
  have back := List.length_dropWhile_le isBlank (s.toList.dropWhile isBlank).reverse
  simp only [trim, String.length_ofList, List.length_reverse, String.length_toList] at front back ⊢
  omega

theorem sum_length_linesWithEnds (cs : List Char) :
    ((linesWithEnds cs).map List.length).sum = cs.length := by
  induction cs with
  | nil => rfl
  | cons c rest ih =>
    rw [linesWithEnds]
    split_ifs
    · simp [ih, Nat.add_comm]
    · cases ends : linesWithEnds rest with
      | nil =>
        rw [ends] at ih
        simp [extendFirst, ← ih]
      | cons first others =>
        rw [ends] at ih
        simp only [extendFirst, List.map_cons, List.length_cons, List.sum_cons] at ih ⊢
        omega

theorem length_dropLineEnd_le (line : List Char) : (dropLineEnd line).length ≤ line.length := by
  have same : line.reverse.length = line.length := line.length_reverse
  unfold dropLineEnd
  split
  · rename_i rest reversed
    rw [reversed, List.length_cons, List.length_cons] at same
    rw [List.length_reverse]
    omega
  · rename_i rest _ reversed
    rw [reversed, List.length_cons] at same
    rw [List.length_reverse]
    omega
  · exact le_rfl

theorem sum_length_lines_le (s : String) : ((lines s).map String.length).sum ≤ s.length := by
  rw [lines, List.map_map, ← s.length_toList, ← sum_length_linesWithEnds]
  exact List.sum_le_sum fun line _ => by simpa using length_dropLineEnd_le line

theorem length_le_utf8ByteSize (s : String) : s.length ≤ s.utf8ByteSize := by
  rw [← String.utf8Len_toList, ← s.length_toList]
  induction s.toList with
  | nil => simp
  | cons c rest ih =>
    rw [List.length_cons, String.utf8Len_cons]
    have := c.utf8Size_pos
    omega

end Text

theorem sum_length_statementsIn_le (text : String) :
    ((statementsIn text).map String.length).sum ≤ text.length := by
  refine le_trans ?_ (Text.sum_length_lines_le text)
  rw [statementsIn]
  induction Text.lines text with
  | nil => simp
  | cons line rest ih =>
    have trimmed := Text.length_trim_le line
    rw [List.map_cons, List.filter_cons, List.map_cons, List.sum_cons]
    split_ifs
    · rw [List.map_cons, List.sum_cons]
      omega
    · omega

theorem length_scan_le {cs : List Char} {tokens : List Token} (made : scan cs = .ok tokens) :
    tokens.length ≤ cs.length := by
  fun_induction scan cs generalizing tokens with
  | case1 =>
    cases made
    simp
  | case2 c rest _ ih => exact (ih made).trans (Nat.le_succ _)
  | case3 c rest _ _ shorter ih | case4 c rest _ _ _ shorter ih =>
    obtain ⟨others, scanned, rfl⟩ := exists_of_map_eq_ok made
    exact Nat.succ_le_succ ((ih scanned).trans shorter)
  | case5 c rest _ _ _ mark _ ih =>
    obtain ⟨others, scanned, rfl⟩ := exists_of_map_eq_ok made
    exact Nat.succ_le_succ (ih scanned)
  | case6 => cases made

theorem length_tokenize_le {line : String} {tokens : List Token}
    (made : tokenize line = .ok tokens) : tokens.length ≤ line.length := by
  rw [tokenize] at made
  cases scanned : scan line.toList with
  | error c =>
    rw [scanned] at made
    cases made
  | ok others =>
    rw [scanned] at made
    cases made
    exact line.length_toList ▸ length_scan_le scanned

theorem length_dropStops_le (tokens : List Token) : (dropStops tokens).length ≤ tokens.length := by
  have := List.length_dropWhile_le Token.isStop tokens.reverse
  simpa [dropStops] using this

/-! ## Nouns -/

/-- What a kind can be called by a stretch of a line: it may be typed in either number, and begin
the line. -/
def Name.nouns (part : Name) : List String :=
  let names := [part, part.lowerFirst]
  (names ++ names.filterMap fun name => name.singular.toOption).map untokenize

theorem Name.length_nouns_le (part : Name) : part.nouns.length ≤ 4 := by
  have := List.length_filterMap_le (fun name : Name => name.singular.toOption)
    [part, part.lowerFirst]
  simp only [nouns, List.length_map, List.length_append, List.length_cons, List.length_nil]
    at this ⊢
  omega

/-- What kinds can be called by a line. -/
def nounsOfLine (line : String) : List String :=
  match tokenize line with
  | .ok tokens => (stretches (dropStops tokens)).flatMap Name.nouns
  | .error _ => []

theorem length_nounsOfLine_le (line : String) :
    (nounsOfLine line).length ≤ 2 * line.length * (line.length + 1) := by
  unfold nounsOfLine
  split
  · rename_i tokens made
    have short : (dropStops tokens).length ≤ line.length :=
      (length_dropStops_le tokens).trans (length_tokenize_le made)
    have parts := length_stretches (dropStops tokens)
    have few : ((stretches (dropStops tokens)).flatMap Name.nouns).length ≤
        (stretches (dropStops tokens)).length * 4 := by
      rw [List.length_flatMap]
      refine (List.sum_le_card_nsmul _ 4 ?_).trans_eq (by simp)
      simpa using fun part _ => Name.length_nouns_le part
    have := Nat.mul_le_mul short (Nat.succ_le_succ short)
    nlinarith
  · simp

/-- What kinds can be called by the lines of a text. -/
def nounsOfText (text : String) : List String :=
  (statementsIn text).flatMap nounsOfLine

theorem length_nounsOfText_le (text : String) :
    (nounsOfText text).length ≤ 2 * text.utf8ByteSize * (text.utf8ByteSize + 1) := by
  have few := length_flatMap_le (statementsIn text) fun line _ => length_nounsOfLine_le line
  have short := (sum_length_statementsIn_le text).trans (Text.length_le_utf8ByteSize text)
  have := Nat.mul_le_mul short (Nat.succ_le_succ short)
  refine few.trans ?_
  nlinarith

namespace Storage

/-- What kinds can be called by what there is at a place. -/
def nounsOfItem : StorageItem → List String
  | .file content => ((String.fromUTF8? content).map nounsOfText).getD []
  | _ => []

theorem length_nounsOfItem_le (item : StorageItem) :
    (nounsOfItem item).length ≤ 2 * item.size * (item.size + 1) := by
  cases item with
  | file content =>
    rw [nounsOfItem]
    unfold String.fromUTF8?
    split_ifs with valid
    · exact length_nounsOfText_le (String.fromUTF8 content valid)
    · simp
  | folder | nothing | barred => simp [nounsOfItem]

/-- All items there are, wherever they are. -/
def allItems (storage : Storage) : List StorageItem :=
  storage.elsewhere :: storage.items.map Prod.snd

theorem size_eq_sum (storage : Storage) :
    storage.size = (storage.allItems.map StorageItem.size).sum := by
  rw [size, allItems, List.map_cons, List.sum_cons]
  generalize storage.elsewhere.size = total
  induction storage.items generalizing total with
  | nil => rfl
  | cons entry rest ih =>
    rw [List.foldl_cons, ih, List.map_cons, List.map_cons, List.sum_cons, Nat.add_assoc]

/-- What kinds can be called by any line of any file. One that is no more than declared has no name
at all. -/
def nouns (storage : Storage) : List String :=
  "" :: storage.allItems.flatMap nounsOfItem

theorem length_nouns_lt (storage : Storage) :
    storage.nouns.length < Knowledge.enoughLoads storage := by
  have few := length_flatMap_le storage.allItems fun item _ => length_nounsOfItem_le item
  rw [← size_eq_sum] at few
  simp only [nouns, Knowledge.enoughLoads, List.length_cons]
  omega

theorem mem_allItems {storage : Storage} {place : Route} {content : ByteArray}
    (seen : storage.item place = .file content) : .file content ∈ storage.allItems := by
  unfold item at seen
  split_ifs at seen
  rw [← seen, allItems, List.mem_cons]
  cases looked : storage.items.lookup place with
  | none => exact .inl rfl
  | some item =>
    obtain ⟨before, after, items, -⟩ := List.lookup_eq_some_iff.mp looked
    exact .inr (by simp [items])

/-- Nouns of the lines of files are among all nouns. -/
theorem mem_nouns {storage : Storage} {path text line noun : String}
    (read : storage.read path = .ok text) (line_mem : line ∈ statementsIn text)
    (noun_mem : noun ∈ nounsOfLine line) : noun ∈ storage.nouns := by
  obtain ⟨place, content, -, seen, decoded⟩ := read_eq_ok.mp read
  refine List.mem_cons_of_mem _ (List.mem_flatMap.mpr ⟨_, mem_allItems seen, ?_⟩)
  rw [nounsOfItem, decoded]
  exact List.mem_flatMap.mpr ⟨line, line_mem, noun_mem⟩

end Storage

end Worldsmith
