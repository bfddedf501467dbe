/-
  BracketBalance.Proofs.Wording — what a diagnostic can be told from.

  A message begins with words that say what is wrong (`Violation.words`), and none of
  these begins another (`words_prefixFree`), so they are read off the message. The rest
  of it has single characters, numbers and fixed text between them, and no number is
  followed by a digit (`number_append_inj`), so they are too.

  A message about a literal does not say its column; the headline of a template does.
  Proved (`message_eq_iff`): violations with one message are the same but for that
  column, and a report of the templates grammar without a window shows everything that
  the scan has found.
-/

import BracketBalance.Proofs.Grammars
import BracketBalance.Report

namespace BracketBalance

/-! ## Numbers within a text -/

/-- The text does not begin with a digit. -/
def DigitFree (a : List Char) : Prop := ∀ c, a.head? = some c → c.isDigit = false

theorem digitFree_nil : DigitFree [] := nofun

theorem digitFree_cons {c : Char} (h : c.isDigit = false) (a : List Char) : DigitFree (c :: a) := by
  intro d hd
  cases hd
  exact h

theorem digitFree_append {w : String} (h : w.toList.head?.any (!·.isDigit) = true) (a : List Char) :
    DigitFree (w.toList ++ a) := by
  intro d hd
  rw [List.head?_append] at hd
  cases hw : w.toList.head? with
  | none => rw [hw] at h; cases h
  | some c =>
    rw [hw] at h hd
    cases hd
    simpa using h

theorem takeWhile_number (n : Nat) {a : List Char} (ha : DigitFree a) :
    ((toString n).toList ++ a).takeWhile Char.isDigit = Nat.toDigits 10 n := by
  have hdigits : ∀ c ∈ Nat.toDigits 10 n, c.isDigit = true := fun c hc =>
    Nat.isDigit_of_mem_toDigits (by decide) (Nat.le_refl 10) hc
  have hrest : a.takeWhile Char.isDigit = [] := by
    cases a with
    | nil => rfl
    | cons c a => exact List.takeWhile_cons_of_neg (by simp [ha c rfl])
  rw [Nat.toString_eq_repr, Nat.toList_repr, List.takeWhile_append_of_pos hdigits, hrest, List.append_nil]

theorem number_append_inj {m n : Nat} {a b : List Char} (ha : DigitFree a) (hb : DigitFree b)
    (h : (toString m).toList ++ a = (toString n).toList ++ b) : m = n ∧ a = b := by
  have hdigits := congrArg (List.takeWhile Char.isDigit) h
  rw [takeWhile_number m ha, takeWhile_number n hb] at hdigits
  have hmn : m = n :=
    calc
      m = Nat.ofDigitChars 10 (Nat.toDigits 10 m) 0 := Nat.ofDigitChars_ten_toDigits.symm
      _ = Nat.ofDigitChars 10 (Nat.toDigits 10 n) 0 := by rw [hdigits]
      _ = n := Nat.ofDigitChars_ten_toDigits
  subst hmn
  exact ⟨rfl, List.append_cancel_left h⟩

theorem Position.toList_text (p : Position) :
    p.text.toList = (toString p.line).toList ++ ':' :: (toString p.column).toList := by
  rw [text, String.toList_append, String.toList_append, List.append_assoc]
  rfl

/-- A place is read up to the end of its column. -/
theorem Position.text_append_inj {p q : Position} {a b : List Char} (ha : DigitFree a) (hb : DigitFree b)
    (h : p.text.toList ++ a = q.text.toList ++ b) : p = q ∧ a = b := by
  rw [toList_text, toList_text, List.append_assoc, List.append_assoc, List.cons_append, List.cons_append] at h
  obtain ⟨hline, h⟩ := number_append_inj (digitFree_cons (by decide) _) (digitFree_cons (by decide) _) h
  obtain ⟨hcolumn, h⟩ := number_append_inj ha hb (List.cons_inj_right _ |>.mp h)
  exact ⟨by cases p; cases q; simp_all, h⟩

theorem Position.text_inj {p q : Position} (h : p.text.toList = q.text.toList) : p = q := by
  refine (text_append_inj digitFree_nil digitFree_nil ?_).1
  rw [List.append_nil, List.append_nil, h]

/-! ## The words of a message -/

namespace Violation

/-- What a message begins with. -/
def words : Violation → String
  | unmatchedCloser _ _ => "Unmatched closing "
  | mismatched _ _ _ _ => "Mismatched "
  | unterminatedLiteral kind _ => "Unclosed " ++ kind.name
  | unterminatedBracket _ _ => "Unclosed opener "

def details : Violation → List Char
  | unmatchedCloser closer position => closer :: (" at ".toList ++ position.text.toList)
  | mismatched opener opened closer closed =>
    opener :: (" opened at ".toList ++ (opened.text.toList ++ (" closed by ".toList ++
      closer :: (" at ".toList ++ closed.text.toList))))
  | unterminatedLiteral kind start =>
    " starts at line ".toList ++ ((toString start.line).toList ++ (" (type ".toList ++
      (kind.delimiter.toList ++ ")".toList)))
  | unterminatedBracket opener position => opener :: (" at ".toList ++ position.text.toList)

theorem toList_message (v : Violation) : v.message.toList = v.words.toList ++ v.details := by
  cases v with
  | unmatchedCloser c p =>
    show ("Unmatched closing " ++ c.toString ++ " at " ++ p.text).toList = "Unmatched closing ".toList ++ _
    simp only [String.toList_append, List.append_assoc, Char.toString_eq_singleton, String.toList_singleton]
    rfl
  | mismatched o p c q =>
    show ("Mismatched " ++ o.toString ++ " opened at " ++ p.text ++ " closed by " ++ c.toString ++ " at "
      ++ q.text).toList = "Mismatched ".toList ++ _
    simp only [String.toList_append, List.append_assoc, Char.toString_eq_singleton, String.toList_singleton]
    rfl
  | unterminatedLiteral kind st =>
    show ("Unclosed " ++ kind.name ++ " starts at line " ++ toString st.line ++ " (type " ++ kind.delimiter
      ++ ")").toList = ("Unclosed " ++ kind.name).toList ++ _
    simp only [String.toList_append, List.append_assoc]
    rfl
  | unterminatedBracket o p =>
    show ("Unclosed opener " ++ o.toString ++ " at " ++ p.text).toList = "Unclosed opener ".toList ++ _
    simp only [String.toList_append, List.append_assoc, Char.toString_eq_singleton, String.toList_singleton]
    rfl

end Violation

/-- All that a message can begin with. -/
def allWords : List String :=
  ["Unmatched closing ", "Mismatched ", "Unclosed opener ", "Unclosed string", "Unclosed template", "Unclosed regex",
    "Unclosed line comment", "Unclosed block comment"]

theorem words_literal (kind : LiteralKind) : "Unclosed " ++ kind.name ∈ allWords.drop 3 := by
  have h : ∀ name ∈ ["string", "template", "regex", "line comment", "block comment"],
      "Unclosed " ++ name ∈ allWords.drop 3 := by decide
  exact h kind.name (by cases kind <;> simp [LiteralKind.name])

theorem words_mem (v : Violation) : v.words ∈ allWords := by
  cases v with
  | unterminatedLiteral kind start => exact List.mem_of_mem_drop (words_literal kind)
  | _ => simp [Violation.words, allWords]

/-- None of them begins another. -/
theorem words_prefixFree : ∀ u ∈ allWords, ∀ w ∈ allWords, u.toList <+: w.toList → u = w := by decide

/-- Messages that are the same have the same words, and say the same after them. -/
theorem words_of_message {v w : Violation} (h : v.message = w.message) : v.words = w.words ∧ v.details = w.details := by
  have hlist := congrArg String.toList h
  rw [Violation.toList_message, Violation.toList_message] at hlist
  have hwords : v.words = w.words := by
    rcases List.prefix_or_prefix_of_prefix (List.prefix_append v.words.toList v.details)
      (hlist ▸ List.prefix_append w.words.toList w.details) with hp | hp
    · exact words_prefixFree _ (words_mem v) _ (words_mem w) hp
    · exact (words_prefixFree _ (words_mem w) _ (words_mem v) hp).symm
  rw [hwords] at hlist
  exact ⟨hwords, List.append_cancel_left hlist⟩

/-! ## What a message tells -/

/-- A string is one in quotes or in apostrophes. -/
def LiteralKind.Quoted : LiteralKind → Prop
  | string quote => quote = '"' ∨ quote = '\''
  | _ => True

/-- The strings that a violation is about are in quotes or in apostrophes. -/
def Violation.Quoted : Violation → Prop
  | unterminatedLiteral kind _ => kind.Quoted
  | _ => True

theorem LiteralKind.eq_of_name {k k' : LiteralKind} (hk : k.Quoted) (hk' : k'.Quoted) (hname : k.name = k'.name)
    (hdelimiter : k.delimiter = k'.delimiter) : k = k' := by
  cases k with
  | string q =>
    cases k' with
    | string q' =>
      rcases hk with rfl | rfl <;> rcases hk' with rfl | rfl
      · rfl
      · exact absurd hdelimiter (by decide)
      · exact absurd hdelimiter (by decide)
      · rfl
    | _ => simp [name] at hname
  | _ =>
    cases k' with
    | string q' => simp [name] at hname
    | _ => first | rfl | simp [name] at hname

/-- The words of a message about a literal are none of the others. -/
theorem LiteralKind.words_ne (kind : LiteralKind) {w : String} (hw : w ∈ allWords.take 3) :
    w ≠ "Unclosed " ++ kind.name := by
  have hdisjoint : ∀ w ∈ allWords.take 3, w ∉ allWords.drop 3 := by decide
  rintro rfl
  exact hdisjoint _ hw (words_literal kind)

namespace Violation

variable {v w : Violation}

theorem exists_unmatchedCloser (h : "Unmatched closing " = w.words) : ∃ c p, w = unmatchedCloser c p := by
  cases w with
  | unmatchedCloser c p => exact ⟨c, p, rfl⟩
  | unterminatedLiteral kind st => exact absurd h (kind.words_ne (by decide))
  | _ => simp [words] at h

theorem exists_mismatched (h : "Mismatched " = w.words) : ∃ o p c q, w = mismatched o p c q := by
  cases w with
  | mismatched o p c q => exact ⟨o, p, c, q, rfl⟩
  | unterminatedLiteral kind st => exact absurd h (kind.words_ne (by decide))
  | _ => simp [words] at h

theorem exists_unterminatedLiteral {kind : LiteralKind} (h : "Unclosed " ++ kind.name = w.words) :
    ∃ kind' st, w = unterminatedLiteral kind' st ∧ kind.name = kind'.name := by
  cases w with
  | unterminatedLiteral kind' st => exact ⟨kind', st, rfl, (String.append_right_inj _).mp h⟩
  | _ => exact absurd h.symm (kind.words_ne (by simp [words, allWords]))

theorem exists_unterminatedBracket (h : "Unclosed opener " = w.words) : ∃ o p, w = unterminatedBracket o p := by
  cases w with
  | unterminatedBracket o p => exact ⟨o, p, rfl⟩
  | unterminatedLiteral kind st => exact absurd h (kind.words_ne (by decide))
  | _ => simp [words] at h

/-- A message tells all of its violation but the column of a literal. -/
theorem eq_of_message (hv : v.Quoted) (hw : w.Quoted) (h : v.message = w.message) :
    v = w ∨ ∃ kind line c c', v = unterminatedLiteral kind ⟨line, c⟩ ∧ w = unterminatedLiteral kind ⟨line, c'⟩ := by
  obtain ⟨hwords, hdetails⟩ := words_of_message h
  cases v with
  | unmatchedCloser c p =>
    obtain ⟨c', p', rfl⟩ := exists_unmatchedCloser hwords
    obtain ⟨rfl, hp⟩ := List.cons_eq_cons.mp hdetails
    obtain rfl := Position.text_inj (List.append_cancel_left hp)
    exact .inl rfl
  | mismatched o p c q =>
    obtain ⟨o', p', c', q', rfl⟩ := exists_mismatched hwords
    obtain ⟨rfl, hopened⟩ := List.cons_eq_cons.mp hdetails
    obtain ⟨rfl, hclosed⟩ := Position.text_append_inj (digitFree_append (by decide) _) (digitFree_append (by decide) _)
      (List.append_cancel_left hopened)
    obtain ⟨rfl, hq⟩ := List.cons_eq_cons.mp (List.append_cancel_left hclosed)
    obtain rfl := Position.text_inj (List.append_cancel_left hq)
    exact .inl rfl
  | unterminatedLiteral kind st =>
    obtain ⟨kind', st', rfl, hname⟩ := exists_unterminatedLiteral hwords
    obtain ⟨hline, hrest⟩ := number_append_inj (digitFree_append (by decide) _)
      (digitFree_append (by decide) _) (List.append_cancel_left hdetails)
    have hdelimiter := List.append_cancel_right (List.append_cancel_left hrest)
    obtain rfl := LiteralKind.eq_of_name hv hw hname (String.toList_inj.mp hdelimiter)
    obtain ⟨line, c⟩ := st
    obtain ⟨line', c'⟩ := st'
    obtain rfl : line = line' := hline
    exact .inr ⟨kind, line, c, c', rfl, rfl⟩
  | unterminatedBracket o p =>
    obtain ⟨o', p', rfl⟩ := exists_unterminatedBracket hwords
    obtain ⟨rfl, hp⟩ := List.cons_eq_cons.mp hdetails
    obtain rfl := Position.text_inj (List.append_cancel_left hp)
    exact .inl rfl

theorem eq_message_iff {v w : Violation} (hv : v.Quoted) (hw : w.Quoted) : v.message = w.message ↔ v = w ∨
    ∃ kind line c c', v = .unterminatedLiteral kind ⟨line, c⟩ ∧ w = .unterminatedLiteral kind ⟨line, c'⟩ := by
  constructor
  · exact eq_of_message hv hw
  · rintro (rfl | ⟨kind, line, c, c', rfl, rfl⟩) <;> rfl

end Violation

/-! ## What a report of the templates grammar tells -/

open Scanner

theorem template_of_scan {t : List Char} {v : Violation} (h : scan .templates t = some v) :
    ∃ st, v = .unterminatedLiteral .template st := by
  obtain ⟨hempty, hf⟩ := (sound .templates t).inert rfl
  have hi : (start.feed .templates t).innermost = none := innermost_eq_none_iff.mpr hempty
  rcases verdict_cases hf h with ⟨kind, st, hu, rfl⟩ | ⟨f, hmem, -⟩
  · obtain rfl := template_of_verdict hf (ofSlash_eq_false rfl t) hu h hi
    exact ⟨st, rfl⟩
  · rw [hempty] at hmem
    cases hmem

theorem render_balanced (t : List Char) :
    Report.render ⟨.templates, none⟩ none t = "OK (all template literals closed)" ++ "\n" := rfl

theorem render_template (st : Position) (t : List Char) :
    Report.render ⟨.templates, none⟩ (some (.unterminatedLiteral .template st)) t =
      "UNTERMINATED backtick starting at line " ++ toString st.line ++ ", col " ++ toString st.column ++ "\n" := rfl

theorem render_template_inj {st st' : Position} {t t' : List Char}
    (h : Report.render ⟨.templates, none⟩ (some (.unterminatedLiteral .template st)) t =
      Report.render ⟨.templates, none⟩ (some (.unterminatedLiteral .template st')) t') : st = st' := by
  have hlist := congrArg String.toList h
  simp only [render_template, String.toList_append, List.append_assoc] at hlist
  obtain ⟨hline, hrest⟩ := number_append_inj (digitFree_append (by decide) _)
    (digitFree_append (by decide) _) (List.append_cancel_left hlist)
  obtain ⟨hcolumn, -⟩ := number_append_inj (digitFree_cons (c := '\n') (by decide) [])
    (digitFree_cons (c := '\n') (by decide) []) (List.append_cancel_left hrest)
  cases st
  cases st'
  simp_all

theorem render_balanced_ne (st : Position) (t t' : List Char) : Report.render ⟨.templates, none⟩ none t ≠
    Report.render ⟨.templates, none⟩ (some (.unterminatedLiteral .template st)) t' := by
  intro h
  have hhead := congrArg (fun s => s.toList.head?) h
  simp only [render_balanced, render_template, String.toList_append, List.append_assoc] at hhead
  exact absurd (show some 'O' = some 'U' from hhead) (by decide)

/-- The report on a scan by the templates grammar, without a window, is the same for one verdict only. -/
theorem render_templates_eq_iff (t u t' u' : List Char) :
    Report.render ⟨.templates, none⟩ (scan .templates t) t' = Report.render ⟨.templates, none⟩ (scan .templates u) u' ↔
      scan .templates t = scan .templates u := by
  constructor
  · intro h
    cases ht : scan .templates t with
    | none =>
      cases hu : scan .templates u with
      | none => rfl
      | some v =>
        obtain ⟨st, rfl⟩ := template_of_scan hu
        rw [ht, hu] at h
        exact absurd h (render_balanced_ne st t' u')
    | some v =>
      obtain ⟨st, rfl⟩ := template_of_scan ht
      cases hu : scan .templates u with
      | none =>
        rw [ht, hu] at h
        exact absurd h.symm (render_balanced_ne st u' t')
      | some w =>
        obtain ⟨st', rfl⟩ := template_of_scan hu
        rw [ht, hu] at h
        rw [render_template_inj h]
  · intro h
    rw [h]
    rfl

/-- Two messages are the same for one violation only, the column of a literal apart, which no message shows. A report
    on a scan by the templates grammar shows that too. -/
theorem message_eq_iff :
    (∀ v w : Violation, v.Quoted → w.Quoted → (v.message = w.message ↔ v = w ∨
      ∃ kind line c c', v = .unterminatedLiteral kind ⟨line, c⟩ ∧ w = .unterminatedLiteral kind ⟨line, c'⟩)) ∧
    ∀ t u t' u', Report.render ⟨.templates, none⟩ (scan .templates t) t' =
      Report.render ⟨.templates, none⟩ (scan .templates u) u' ↔ scan .templates t = scan .templates u :=
  ⟨fun _ _ => Violation.eq_message_iff, render_templates_eq_iff⟩

/-- Two strings that open in one line have one message; two whose places differ by how their digits are shared out
    between them do not. -/
theorem message_eq_iff_places :
    (Violation.unterminatedLiteral (.string '"') ⟨1, 3⟩).message =
      (Violation.unterminatedLiteral (.string '"') ⟨1, 7⟩).message ∧
    (Violation.mismatched '(' ⟨1, 1⟩ ']' ⟨1, 12⟩).message ≠ (Violation.mismatched '(' ⟨1, 11⟩ ']' ⟨1, 2⟩).message := by
  constructor
  · have hv (column : Nat) : Violation.Quoted (.unterminatedLiteral (.string '"') ⟨1, column⟩) := .inl rfl
    exact (message_eq_iff.1 _ _ (hv 3) (hv 7)).mpr (.inr ⟨_, _, _, _, rfl, rfl⟩)
  · have hv (p q : Position) : Violation.Quoted (.mismatched '(' p ']' q) := trivial
    intro h
    rcases (message_eq_iff.1 _ _ (hv ⟨1, 1⟩ ⟨1, 12⟩) (hv ⟨1, 11⟩ ⟨1, 2⟩)).mp h with h | ⟨_, _, _, _, h, -⟩
    · exact absurd h (by decide)
    · cases h

end BracketBalance
