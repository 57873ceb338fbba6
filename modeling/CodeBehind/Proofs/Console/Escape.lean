import CodeBehind.Console
import CodeBehind.Proofs.Outcome
import Mathlib.Data.List.TakeDrop
import Mathlib.Data.List.TakeWhile

/-!
Escaped texts on the console.

A text without tags is one stretch (`stretchesFrom_plain`), and any other text is such a text, some
backslashes, a tag and a text again (`isPlain_or_exists_tag`). Escaping gives every tag an odd
number of backslashes, so nothing of an escaped text is a tag when it is read, whatever is around it
(`pieces_of_escape`). A line that opens a style in front of an escaped text and closes it after the
text can be printed (`exists_line_escaped`). A panel with an escaped text in it fails with its title
alone (`panel_escape_eq_error_iff`).
-/

namespace CodeBehind.Console

/-! ### Bodies of tags -/

/-- What stands between the brackets of a tag. -/
def IsBody (body : List Char) : Prop :=
  ∃ c rest, body = c :: rest ∧ opensTag c = true ∧ ∀ d ∈ rest, d ≠ '[' ∧ d ≠ ']'

theorem IsBody.bracket_not_mem {body : List Char} (h : IsBody body) : '[' ∉ body := by
  obtain ⟨c, rest, rfl, opens, inside⟩ := h
  intro mem
  rcases List.mem_cons.mp mem with rfl | mem
  · exact absurd opens (by decide)
  · exact (inside _ mem).1 rfl

/-- A tag ends with the first bracket after it has begun. -/
theorem tagBody?_eq_some_iff {cs body : List Char} :
    tagBody? cs = some body ↔ IsBody body ∧ ∃ after, cs = body ++ ']' :: after := by
  constructor
  · intro h
    cases cs with
    | nil => cases h
    | cons c rest =>
      rw [tagBody?, List.span_eq_takeWhile_dropWhile] at h
      dsimp only at h
      split at h
      · next opens =>
        split at h
        · next closes =>
          cases h
          obtain ⟨after, closes⟩ := List.head?_eq_some_iff.mp closes
          refine ⟨⟨c, _, rfl, opens, fun d mem => ?_⟩, after, ?_⟩
          · simpa using List.mem_takeWhile_imp mem
          · rw [List.cons_append, ← closes, List.takeWhile_append_dropWhile]
        · cases h
      · cases h
  · rintro ⟨⟨c, rest, rfl, opens, inside⟩, after, rfl⟩
    have inside : ∀ d ∈ rest, (d != '[' && d != ']') = true := by simpa using inside
    have taken : (rest ++ ']' :: after).takeWhile (fun c => c != '[' && c != ']') = rest := by
      rw [List.takeWhile_append_of_pos inside]
      exact List.append_nil rest
    have left : (rest ++ ']' :: after).dropWhile (fun c => c != '[' && c != ']') =
        ']' :: after := by
      rw [List.dropWhile_append_of_pos inside]
      rfl
    rw [List.cons_append, tagBody?, if_pos opens, List.span_eq_takeWhile_dropWhile, taken, left]
    rfl

/-- A tag is read no matter what comes after it. -/
theorem tagBody?_append_of_some {cs body : List Char} (h : tagBody? cs = some body)
    (rest : List Char) : tagBody? (cs ++ rest) = some body := by
  obtain ⟨isBody, after, rfl⟩ := tagBody?_eq_some_iff.mp h
  refine tagBody?_eq_some_iff.mpr ⟨isBody, after ++ rest, ?_⟩
  rw [List.append_assoc, List.cons_append]

/-- The first bracket in a text, if there is one, opens. -/
def OpensFirst (text : List Char) : Prop :=
  ∀ front after, text = front ++ ']' :: after → '[' ∈ front

/-- A text without closing brackets does not close one first. -/
theorem opensFirst_of_not_mem {text : List Char} (h : ']' ∉ text) : OpensFirst text := by
  rintro front after rfl
  exact absurd (List.mem_append_right _ List.mem_cons_self) h

theorem opensFirst_cons (rest : List Char) : OpensFirst ('[' :: rest) := by
  intro front after whole
  cases front with
  | nil => cases whole
  | cons c front =>
    obtain ⟨rfl, -⟩ := List.cons.inj whole
    exact List.mem_cons_self

theorem opensFirst_append {text rest : List Char} (h : ']' ∉ text) (opens : OpensFirst rest) :
    OpensFirst (text ++ rest) := by
  intro front after whole
  rcases List.append_eq_append_iff.mp whole with ⟨inner, rfl, tail⟩ | ⟨inner, rfl, tail⟩
  · exact List.mem_append_right _ (opens inner after tail)
  · cases inner with
    | nil => cases opens [] after tail.symm
    | cons c inner =>
      obtain ⟨rfl, -⟩ := List.cons.inj tail
      exact absurd (List.mem_append_right _ List.mem_cons_self) h

/-- What begins no tag begins none in front of a text whose first bracket opens. -/
theorem tagBody?_append {cs rest : List Char} (h : tagBody? cs = none) (opens : OpensFirst rest) :
    tagBody? (cs ++ rest) = none := by
  rw [Option.eq_none_iff_forall_ne_some] at h ⊢
  intro body found
  obtain ⟨isBody, after, whole⟩ := tagBody?_eq_some_iff.mp found
  rcases List.append_eq_append_iff.mp whole with ⟨inner, rfl, tail⟩ | ⟨inner, rfl, tail⟩
  · exact isBody.bracket_not_mem (List.mem_append_right _ (opens inner after tail))
  · cases inner with
    | nil => cases opens [] after tail.symm
    | cons c inner =>
      obtain ⟨rfl, -⟩ := List.cons.inj tail
      exact h body (tagBody?_eq_some_iff.mpr ⟨isBody, inner, rfl⟩)

/-! ### Stretches -/

/-- No opening bracket in a text begins a tag. -/
def IsPlain (text : List Char) : Prop :=
  ∀ rest, '[' :: rest <:+ text → tagBody? rest = none

theorem isPlain_nil : IsPlain [] := by
  intro rest suffix
  cases List.suffix_nil.mp suffix

/-- A text is plain if no tag begins at its front and what follows is plain. -/
theorem isPlain_cons {c : Char} {text : List Char} :
    IsPlain (c :: text) ↔ (c = '[' → tagBody? text = none) ∧ IsPlain text := by
  constructor
  · intro h
    refine ⟨?_, fun rest suffix => h rest (suffix.trans (List.suffix_cons c text))⟩
    rintro rfl
    exact h text List.suffix_rfl
  · rintro ⟨here, later⟩ rest suffix
    rcases List.suffix_cons_iff.mp suffix with same | suffix
    · obtain ⟨rfl, rfl⟩ := List.cons.inj same
      exact here rfl
    · exact later rest suffix

section Reading

variable {text body rest : List Char}

/-- A text is read as it is where none of its opening brackets begins a tag. -/
theorem stretchesFrom_append
    (untagged : ∀ inner, '[' :: inner <:+ text → tagBody? (inner ++ rest) = none)
    (position : Nat) (read : List Char) :
    stretchesFrom position 0 read (text ++ rest) =
      stretchesFrom (position + text.length) 0 (text.reverse ++ read) rest := by
  induction text generalizing position read with
  | nil => rfl
  | cons c text ih =>
    have none : (if c = '[' then tagBody? (text ++ rest) else none) = none := by
      split
      · next opening => exact untagged text (opening ▸ List.suffix_rfl)
      · rfl
    have later := ih fun inner suffix => untagged inner (suffix.trans (List.suffix_cons c text))
    rw [List.cons_append, stretchesFrom, none, later, List.length_cons, List.reverse_cons,
      List.append_assoc, Nat.add_right_comm, Nat.add_assoc]
    rfl

/-- A plain text in front is passed over. -/
theorem stretchesFrom_plain (plain : IsPlain text) (opens : OpensFirst rest) (position : Nat)
    (read : List Char) :
    stretchesFrom position 0 read (text ++ rest) =
      stretchesFrom (position + text.length) 0 (text.reverse ++ read) rest :=
  stretchesFrom_append (fun inner suffix => tagBody?_append (plain inner suffix) opens) _ _

theorem stretchesFrom_of_not_mem (h : '[' ∉ text) (position : Nat) (read rest : List Char) :
    stretchesFrom position 0 read (text ++ rest) =
      stretchesFrom (position + text.length) 0 (text.reverse ++ read) rest :=
  stretchesFrom_append (fun _ suffix => absurd (suffix.subset List.mem_cons_self) h) _ _

/-- The characters of a tag that was read are passed over. -/
theorem stretchesFrom_skip (position : Nat) (read skipped rest : List Char) :
    stretchesFrom position skipped.length read (skipped ++ rest) =
      stretchesFrom (position + skipped.length) 0 read rest := by
  induction skipped generalizing position with
  | nil => rfl
  | cons c skipped ih =>
    rw [List.length_cons, List.cons_append, stretchesFrom, ih, Nat.add_right_comm, Nat.add_assoc]

/-- A tag is read with the backslashes in front of it. -/
theorem stretchesFrom_tag (isBody : IsBody body) (position : Nat) (read rest : List Char) :
    stretchesFrom position 0 read (bracketed body ++ rest) =
      .plain (read.drop (read.takeWhile (· == '\\')).length).reverse ::
        .tag (read.takeWhile (· == '\\')).length position body ::
          stretchesFrom (position + (bracketed body).length) 0 [] rest := by
  have found : tagBody? (body ++ ']' :: rest) = some body :=
    tagBody?_eq_some_iff.mpr ⟨isBody, rest, rfl⟩
  have whole : bracketed body ++ rest = '[' :: (body ++ ']' :: rest) := by
    simp [bracketed]
  have behind : (bracketed body).length = 1 + (body ++ [']']).length := by
    simp [bracketed]
    omega
  have skipped := stretchesFrom_skip (position + 1) [] (body ++ [']']) rest
  rw [List.length_append, List.length_singleton, List.append_assoc, List.singleton_append]
    at skipped
  rw [whole, stretchesFrom, if_pos rfl, found, behind, ← Nat.add_assoc, List.length_append,
    List.length_singleton, ← skipped]

end Reading

/-! ### The first tag -/

def backslashes (count : Nat) : List Char :=
  List.replicate count '\\'

theorem not_mem_backslashes {c : Char} (h : c ≠ '\\') (count : Nat) : c ∉ backslashes count :=
  fun mem => h (List.eq_of_mem_replicate mem)

theorem isPlain_append_backslashes {text : List Char} (plain : IsPlain text) (count : Nat) :
    IsPlain (text ++ backslashes count) := by
  induction text with
  | nil =>
    intro rest suffix
    exact absurd (suffix.subset List.mem_cons_self) (not_mem_backslashes (by decide) count)
  | cons c text ih =>
    obtain ⟨here, later⟩ := isPlain_cons.mp plain
    refine isPlain_cons.mpr ⟨fun opening => ?_, ih later⟩
    exact tagBody?_append (here opening) (opensFirst_of_not_mem (not_mem_backslashes (by decide) _))

/-- A text has no tag, or a first one with backslashes in front of it. -/
theorem isPlain_or_exists_tag (text : List Char) :
    IsPlain text ∨ ∃ front count body rest,
      text = front ++ (backslashes count ++ (bracketed body ++ rest)) ∧ IsPlain front ∧
        front.getLast? ≠ some '\\' ∧ IsBody body := by
  induction text with
  | nil => exact .inl isPlain_nil
  | cons c text ih =>
    by_cases tag : c = '[' ∧ tagBody? text ≠ none
    · obtain ⟨rfl, found⟩ := tag
      obtain ⟨body, found⟩ := Option.ne_none_iff_exists'.mp found
      obtain ⟨isBody, after, rfl⟩ := tagBody?_eq_some_iff.mp found
      refine .inr ⟨[], 0, body, after, ?_, isPlain_nil, by decide, isBody⟩
      simp [backslashes, bracketed]
    · have here : c = '[' → tagBody? text = none := fun opening =>
        not_not.mp fun found => tag ⟨opening, found⟩
      rcases ih with plain | ⟨front, count, body, rest, rfl, plain, last, isBody⟩
      · exact .inl (isPlain_cons.mpr ⟨here, plain⟩)
      · right
        by_cases more : c = '\\' ∧ front = []
        · obtain ⟨rfl, rfl⟩ := more
          exact ⟨[], count + 1, body, rest, rfl, isPlain_nil, by decide, isBody⟩
        · refine ⟨c :: front, count, body, rest, rfl, isPlain_cons.mpr ⟨fun opening => ?_, plain⟩,
            ?_, isBody⟩
          · rw [Option.eq_none_iff_forall_ne_some]
            intro own found
            cases (here opening).symm.trans (tagBody?_append_of_some found _)
          · cases front with
            | nil => simpa using more
            | cons d front => rwa [List.getLast?_cons_cons]

section First

variable {front body read : List Char}

/-- A text is read up to its first tag as what stands in front of the backslashes, and then the tag
with these. -/
theorem stretchesFrom_first (plain : IsPlain front) (isBody : IsBody body)
    (head : (front.reverse ++ read).head? ≠ some '\\') (position count : Nat) (rest : List Char) :
    ∃ here after, stretchesFrom position 0 read
        (front ++ (backslashes count ++ (bracketed body ++ rest))) =
      .plain (read.reverse ++ front) :: .tag count here body :: stretchesFrom after 0 [] rest := by
  have opens : OpensFirst (bracketed body ++ rest) := opensFirst_cons _
  have before : (backslashes count ++ (front.reverse ++ read)).takeWhile (· == '\\') =
      backslashes count := by
    have all : ∀ c ∈ backslashes count, (c == '\\') = true := fun c mem => by
      rw [List.eq_of_mem_replicate mem, beq_self_eq_true]
    rw [List.takeWhile_append_of_pos all]
    cases front_eq : front.reverse ++ read with
    | nil => exact List.append_nil _
    | cons c more =>
      rw [front_eq] at head
      have other : (c == '\\') = false := by simpa using head
      rw [List.takeWhile_cons_of_neg (by simp [other]), List.append_nil]
  rw [← List.append_assoc, stretchesFrom_plain (isPlain_append_backslashes plain count) opens,
    stretchesFrom_tag isBody, List.reverse_append, List.append_assoc]
  have turned : (backslashes count).reverse = backslashes count := List.reverse_replicate ..
  rw [turned, before, List.drop_left, backslashes, List.length_replicate, List.reverse_append,
    List.reverse_reverse]
  exact ⟨_, _, rfl⟩

end First

/-! ### Escaped texts -/

/-- A text with the tags escaped that are read from a position on. -/
def escapedFrom (position : Nat) (text : List Char) : List Char :=
  (stretchesFrom position 0 [] text).flatMap Stretch.escape

/-- Nothing in a plain text is escaped. -/
theorem escapedFrom_plain {text : List Char} (plain : IsPlain text) (position : Nat) :
    escapedFrom position text = text := by
  have whole := stretchesFrom_plain plain (opensFirst_of_not_mem List.not_mem_nil) position []
  rw [List.append_nil] at whole
  rw [escapedFrom, whole, stretchesFrom]
  simp [Stretch.escape]

/-- The first tag gets a backslash in front, and those that stand there already are doubled. -/
theorem escapedFrom_first {front body : List Char} (plain : IsPlain front)
    (last : front.getLast? ≠ some '\\') (isBody : IsBody body) (position count : Nat)
    (rest : List Char) :
    ∃ after, escapedFrom position (front ++ (backslashes count ++ (bracketed body ++ rest))) =
      front ++ (backslashes (2 * count + 1) ++ (bracketed body ++ escapedFrom after rest)) := by
  have head : (front.reverse ++ []).head? ≠ some '\\' := by
    rwa [List.append_nil, List.head?_reverse]
  obtain ⟨here, after, read⟩ := stretchesFrom_first plain isBody head position count rest
  refine ⟨after, ?_⟩
  rw [escapedFrom, read, escapedFrom]
  simp [Stretch.escape, backslashes]

def Piece.IsText (p : Piece) : Prop :=
  ∃ cs, p = .text cs

/-- The pieces that are read of a text from a position on. -/
def piecesFrom (position : Nat) (read text : List Char) : List Piece :=
  (stretchesFrom position 0 read text).flatMap Stretch.pieces

/-- Nothing of an escaped text is a tag, whatever has been read before and is to be read after
it. -/
theorem pieces_of_escaped {read rest : List Char} (head : read.head? ≠ some '\\')
    (opens : OpensFirst rest) (position start : Nat) (text : List Char) :
    ∃ texts, (∀ p ∈ texts, Piece.IsText p) ∧ ∃ after unread,
      piecesFrom start read (escapedFrom position text ++ rest) =
        texts ++ piecesFrom after unread rest := by
  induction length : text.length using Nat.strong_induction_on
    generalizing text position start read with
  | _ n ih =>
    rcases isPlain_or_exists_tag text with plain | ⟨front, count, body, more, rfl, plain, last,
      isBody⟩
    · rw [escapedFrom_plain plain, piecesFrom, stretchesFrom_plain plain opens]
      exact ⟨[], List.forall_mem_nil _, _, _, rfl⟩
    · have shorter : more.length < n := by
        simp only [← length, bracketed, List.length_append, List.length_cons]
        omega
      have ahead : (front.reverse ++ read).head? ≠ some '\\' := by
        rw [List.head?_append, List.head?_reverse]
        cases front_last : front.getLast? with
        | none => exact head
        | some c => rwa [front_last] at last
      have nothing : ([] : List Char).head? ≠ some '\\' := by decide
      obtain ⟨position', escaped⟩ := escapedFrom_first plain last isBody position count more
      obtain ⟨here, start', reads⟩ := stretchesFrom_first plain isBody ahead start (2 * count + 1)
        (escapedFrom position' more ++ rest)
      obtain ⟨texts, areTexts, after, unread, later⟩ :=
        ih more.length shorter nothing position' start' more rfl
      have odd : (2 * count + 1) % 2 = 1 := by omega
      refine ⟨[.text (unescape (read.reverse ++ front)),
        .text (List.replicate ((2 * count + 1) / 2) '\\'), .text (bracketed body)] ++ texts, ?_,
        after, unread, ?_⟩
      · refine List.forall_mem_append.mpr ⟨?_, areTexts⟩
        simp [Piece.IsText]
      · have whole : escapedFrom position (front ++ (backslashes count ++ (bracketed body ++ more)))
            ++ rest = front ++ (backslashes (2 * count + 1) ++
              (bracketed body ++ (escapedFrom position' more ++ rest))) := by
          rw [escaped]
          simp only [List.append_assoc]
        rw [whole, piecesFrom, reads, List.flatMap_cons, List.flatMap_cons, Stretch.pieces,
          Stretch.pieces, if_pos odd, List.append_assoc, ← later]
        rfl

/-- The end of an escaped text that a backslash was added to. -/
def lastBackslash (cs : List Char) : List Char :=
  if endsInBackslash cs then ['\\'] else []

/-- An escaped text is the text with its tags escaped, and perhaps a backslash at the end. -/
theorem toList_escape (text : String) :
    (escape text).toList =
      escapedFrom 0 text.toList ++ lastBackslash (escapedFrom 0 text.toList) := by
  have escaped : (stretches text.toList).flatMap Stretch.escape = escapedFrom 0 text.toList := rfl
  rw [escape, escaped, String.toList_ofList, lastBackslash]
  split
  · rfl
  · rw [List.append_nil]

theorem not_mem_lastBackslash {c : Char} (h : c ≠ '\\') (cs : List Char) :
    c ∉ lastBackslash cs := by
  unfold lastBackslash
  split
  · exact fun mem => h (List.mem_singleton.mp mem)
  · exact List.not_mem_nil

/-- Nothing of what escaping makes of a text is a tag, whatever is around it. -/
theorem pieces_of_escape {read rest : List Char} (head : read.head? ≠ some '\\')
    (opens : OpensFirst rest) (start : Nat) (text : String) :
    ∃ texts, (∀ p ∈ texts, Piece.IsText p) ∧ ∃ after unread,
      piecesFrom start read ((escape text).toList ++ rest) =
        texts ++ piecesFrom after unread rest := by
  rw [toList_escape]
  generalize last_eq : lastBackslash (escapedFrom 0 text.toList) = last
  have noBegin : '[' ∉ last := last_eq ▸ not_mem_lastBackslash (by decide) _
  have noEnd : ']' ∉ last := last_eq ▸ not_mem_lastBackslash (by decide) _
  obtain ⟨texts, areTexts, after, unread, escaped⟩ :=
    pieces_of_escaped head (opensFirst_append noEnd opens) 0 start text.toList
  refine ⟨texts, areTexts, after + last.length, last.reverse ++ unread, ?_⟩
  rw [List.append_assoc, escaped, piecesFrom, stretchesFrom_of_not_mem noBegin, piecesFrom]

/-! ### A line with an escaped text -/

/-- Pieces without tags are shown, and what they are shown in stays open. -/
theorem addPieces_texts {texts : List Piece} (areTexts : ∀ p ∈ texts, Piece.IsText p) (m : Marked)
    (tags : List OpenTag) (rest : List Piece) :
    ∃ m' : Marked, m'.ranges = m.ranges ∧
      m.addPieces tags (texts ++ rest) = m'.addPieces tags rest := by
  induction texts generalizing m with
  | nil => exact ⟨m, rfl, rfl⟩
  | cons p texts ih =>
    obtain ⟨⟨cs, rfl⟩, later⟩ := List.forall_mem_cons.mp areTexts
    obtain ⟨m', ranges, reads⟩ := ih later (m.add cs)
    exact ⟨m', ranges, reads⟩

theorem canonical_red : Style.canonical "red".toList = .ok "red" := by
  decide +kernel

def redTag (start : Nat) : OpenTag where
  start
  style := "red"
  parameters? := none

/-- An opening tag begins the style. -/
theorem addPieces_open (m : Marked) (tags : List OpenTag) (position : Nat) (rest : List Piece) :
    m.addPieces tags (.tag position "red".toList :: rest) =
      m.addPieces (redTag m.text.length :: tags) rest := by
  have split : splitTag "red".toList = ("red".toList, none) := by decide +kernel
  rw [Marked.addPieces.eq_def]
  simp only [split, Except.mapError, bind, Except.bind]
  rfl

/-- A tag that is still open at the end covers the text from its place on. -/
theorem closeAll_redTag (m : Marked) (start : Nat) :
    (m.closeAll [redTag start]).ranges = m.ranges ++ [⟨start, m.text.length, "red".toList⟩] := by
  simp [Marked.closeAll, OpenTag.description, redTag]

theorem close_redTag (m : Marked) (start : Nat) :
    m.close (redTag start) = .ok (m.closeAll [redTag start]) := by
  have style : (redTag start).isHandler = false := by
    have apart : "red".startsWith "@" = false := by decide +kernel
    exact apart
  rw [Marked.close, style]
  rfl

/-- A closing tag ends the style. -/
theorem addPieces_close (m : Marked) (start position : Nat) :
    ∃ m' : Marked, m'.ranges = m.ranges ++ [⟨start, m.text.length, "red".toList⟩] ∧
      m.addPieces [redTag start] [.tag position "/red".toList, .text []] = .ok m' := by
  have split : splitTag "/red".toList = ('/' :: "red".toList, none) := by decide +kernel
  have named : (Text.trim "red".toList).isEmpty = false := by decide +kernel
  refine ⟨((m.closeAll [redTag start]).add []).closeAll [], ?_, ?_⟩
  · rw [← closeAll_redTag]
    exact List.append_nil _
  · have open? : [redTag start].find? (fun t => t.style = "red") = some (redTag start) := by
      simp [redTag]
    rw [Marked.addPieces, split]
    simp only [named, canonical_red, Except.mapError, bind, Except.bind, open?, close_redTag,
      List.erase_cons_head]
    rfl

/-- The end of a line in a style, which backslashes in front of it may make part of the text. -/
theorem addPieces_end (m : Marked) (start position : Nat) (unread : List Char) :
    ∃ (m' : Marked) (stop : Nat), m'.ranges = m.ranges ++ [⟨start, stop, "red".toList⟩] ∧
      m.addPieces [redTag start] (piecesFrom position unread "[/red]".toList) = .ok m' := by
  have isBody : IsBody "/red".toList := ⟨'/', "red".toList, rfl, rfl, by simp⟩
  have reads := stretchesFrom_tag isBody position unread []
  generalize (unread.takeWhile (· == '\\')).length = count at reads
  generalize position + (bracketed "/red".toList).length = after at reads
  have whole : bracketed "/red".toList ++ [] = "[/red]".toList := rfl
  have pieces : piecesFrom position unread "[/red]".toList =
      [.text (unescape (unread.drop count).reverse), .text (List.replicate (count / 2) '\\')] ++
        [if count % 2 = 1 then .text (bracketed "/red".toList)
          else .tag position "/red".toList, .text []] := by
    rw [piecesFrom, ← whole, reads]
    rfl
  have areTexts : ∀ p ∈ [Piece.text (unescape (unread.drop count).reverse),
      .text (List.replicate (count / 2) '\\')], Piece.IsText p := by
    simp [Piece.IsText]
  obtain ⟨m', ranges, shown⟩ := addPieces_texts areTexts m [redTag start]
    [if count % 2 = 1 then .text (bracketed "/red".toList) else .tag position "/red".toList,
      .text []]
  rw [pieces, shown, ← ranges]
  split
  · exact ⟨((m'.add (bracketed "/red".toList)).add []).closeAll [redTag start], _,
      closeAll_redTag _ _, rfl⟩
  · obtain ⟨closed, ranges, reads⟩ := addPieces_close m' start position
    exact ⟨closed, _, ranges, reads⟩

/-- The one style of such a line can be looked up. -/
theorem checkStyles_red {m : Marked} {start stop : Nat}
    (ranges : m.ranges = [⟨start, stop, "red".toList⟩]) (lines : Nat) :
    m.checkStyles lines = .ok () := by
  have style : Style.read "red".toList = .ok (some { colour? := some "red" }) := by decide +kernel
  refine Outcome.forM_eq_ok.mpr fun r mem => ?_
  rw [ranges] at mem
  rw [List.mem_singleton.mp (List.mem_filter.mp mem).1, style]
  rfl

/-- The beginning of such a line opens the style. -/
theorem pieces_of_opening (fixed rest : List Char) (noBracket : '[' ∉ fixed) :
    ∃ position, piecesFrom 0 [] (bracketed "red".toList ++ (fixed ++ rest)) =
      [.text [], .text [], .tag 0 "red".toList] ++ piecesFrom position fixed.reverse rest := by
  have isBody : IsBody "red".toList := ⟨'r', "ed".toList, rfl, rfl, by simp⟩
  rw [piecesFrom, stretchesFrom_tag isBody, stretchesFrom_of_not_mem noBracket, List.append_nil]
  exact ⟨_, rfl⟩

/-- A line with an escaped text in it can be printed, whatever the text is. -/
theorem exists_line_escaped (text : String) :
    ∃ shown, line ("[red]✗ No output written for " ++ escape text ++ "[/red]") = .ok shown := by
  generalize fixed_eq : "✗ No output written for ".toList = fixed
  have opening : "[red]✗ No output written for ".toList = bracketed "red".toList ++ fixed := by
    rw [← fixed_eq]
    decide +kernel
  have noBracket : '[' ∉ fixed := fixed_eq ▸ by decide +kernel
  have head : fixed.reverse.head? ≠ some '\\' := fixed_eq ▸ by decide +kernel
  have closing : OpensFirst "[/red]".toList := opensFirst_cons _
  obtain ⟨position, opens⟩ := pieces_of_opening fixed ((escape text).toList ++ "[/red]".toList)
    noBracket
  obtain ⟨texts, areTexts, after, unread, escaped⟩ := pieces_of_escape head closing position text
  have pieces : piecesFrom 0 []
      ("[red]✗ No output written for " ++ escape text ++ "[/red]").toList =
        [.text [], .text [], .tag 0 "red".toList] ++
          (texts ++ piecesFrom after unread "[/red]".toList) := by
    rw [String.toList_append, String.toList_append, opening, List.append_assoc, List.append_assoc,
      opens, escaped]
  -- what is shown before the text is empty
  let blank : Marked := (({ : Marked }).add []).add []
  obtain ⟨m, ranges, shown⟩ := addPieces_texts areTexts blank [redTag blank.text.length]
    (piecesFrom after unread "[/red]".toList)
  obtain ⟨m', stop, ranges', ends⟩ := addPieces_end m blank.text.length after unread
  have read : Marked.read ("[red]✗ No output written for " ++ escape text ++ "[/red]") =
      .ok m' :=
    calc Marked.read ("[red]✗ No output written for " ++ escape text ++ "[/red]")
      _ = ({ : Marked }).addPieces [] (piecesFrom 0 []
          ("[red]✗ No output written for " ++ escape text ++ "[/red]").toList) := rfl
      _ = blank.addPieces [] (.tag 0 "red".toList ::
          (texts ++ piecesFrom after unread "[/red]".toList)) := by
        rw [pieces]
        rfl
      _ = .ok m' := by rw [addPieces_open, shown, ends]
  have styled : m'.ranges = [⟨blank.text.length, stop, "red".toList⟩] := by
    rw [ranges', ranges]
    rfl
  rw [line, read]
  simp only [bind, Except.bind, checkStyles_red styled]
  exact ⟨_, rfl⟩

/-! ### A panel with an escaped text -/

/-- An escaped text by itself is shown without any style. -/
theorem exists_read_escape (text : String) :
    ∃ m : Marked, Marked.read (escape text) = .ok m ∧ m.ranges = [] := by
  have nothing : OpensFirst [] := opensFirst_of_not_mem List.not_mem_nil
  have head : ([] : List Char).head? ≠ some '\\' := by decide
  obtain ⟨texts, areTexts, after, unread, pieces⟩ := pieces_of_escape head nothing 0 text
  obtain ⟨m, ranges, shown⟩ := addPieces_texts areTexts {} [] (piecesFrom after unread [])
  have read : Marked.read (escape text) = m.addPieces [] (piecesFrom after unread []) := by
    rw [← shown, ← pieces, List.append_nil]
    rfl
  refine ⟨(m.add (unescape unread.reverse)).closeAll [], read, ?_⟩
  exact (List.append_nil _).trans ranges

/-- A title can be read as markup, and its styles can be looked up. -/
def checkTitle (title : String) : Except MarkupError Unit := do
  (← Marked.read title).checkStyles 1

/-- A panel fails with its title alone where the text in it is escaped. -/
theorem panel_escape_eq_error_iff (title text : String) {e : MarkupError} :
    panel title (escape text) = .error e ↔ checkTitle title = .error e := by
  obtain ⟨m, read, ranges⟩ := exists_read_escape text
  have plain : ∀ lines, m.checkStyles lines = .ok () := by
    intro lines
    rw [Marked.checkStyles, ranges]
    rfl
  rw [panel, read, checkTitle]
  simp only [bind, Except.bind, plain]
  cases Marked.read title with
  | error e' => simp
  | ok heading =>
    dsimp only
    cases heading.checkStyles 1 with
    | error e' => simp
    | ok done => simp [pure, Except.pure]

end CodeBehind.Console
