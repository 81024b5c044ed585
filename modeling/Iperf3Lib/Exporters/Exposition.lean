import Iperf3Lib.Py.Str
import Mathlib.Data.List.Infix

/-!
# The text exposition format

Lines of a text exposition, as a reader of the format takes them: a line that begins with `#` is a
comment, and every other one is a sample, its name, labels in braces and a value. In a label value a
backslash, a line feed and a quote are written with a backslash. The reader goes over a line once,
one character at a time; a sample that is written in this format is read back, whatever its label
values are.
-/

namespace Iperf3Lib.Exposition

open Py

/-! ## Names -/

def isLetter (c : PyChar) : Bool := (97 ≤ c.ord && c.ord ≤ 122) || (65 ≤ c.ord && c.ord ≤ 90)

def isDigit (c : PyChar) : Bool := 48 ≤ c.ord && c.ord ≤ 57

/-- The class `[a-zA-Z0-9_]`. -/
def isLabelChar (c : PyChar) : Bool := isLetter c || isDigit c || c = '_'

/-- The class `[a-zA-Z0-9_:]`. -/
def isMetricChar (c : PyChar) : Bool := isLabelChar c || c = ':'

/-- `[a-zA-Z_:][a-zA-Z0-9_:]*`. -/
def isMetricName : PyStr → Bool
  | [] => false
  | c :: s => (isMetricChar c && !isDigit c) && s.all isMetricChar

/-- `[a-zA-Z_][a-zA-Z0-9_]*`. -/
def isLabelName : PyStr → Bool
  | [] => false
  | c :: s => (isLabelChar c && !isDigit c) && s.all isLabelChar

/-! ## Writing -/

/-- A sample: its name, its labels and the text of its value. -/
structure Sample where
  name : PyStr
  labels : List (PyStr × PyStr)
  value : PyStr
deriving DecidableEq

/-- How a character of a label value is written. -/
def escapeChar (c : PyChar) : PyStr :=
  if c = '\\' then ['\\', '\\']
  else if c = '\n' then ['\\', 'n']
  else if c = '"' then ['\\', '"']
  else [c]

def escape (s : PyStr) : PyStr := s.flatMap escapeChar

/-- `name="value"`. -/
def writePair (p : PyStr × PyStr) : PyStr := p.1 ++ "=\"" ++ escape p.2 ++ "\""

/-- The pairs, separated by commas and followed by the closing brace. -/
def writePairs : List (PyStr × PyStr) → PyStr
  | [] => [.scalar '}']
  | [p] => writePair p ++ [.scalar '}']
  | p :: ps => writePair p ++ .scalar ',' :: writePairs ps

/-- The labels in braces, if there are any. -/
def writeLabels (labels : List (PyStr × PyStr)) : PyStr :=
  if labels = [] then [] else .scalar '{' :: writePairs labels

/-- The line of a sample. -/
def Sample.write (s : Sample) : PyStr := s.name ++ writeLabels s.labels ++ .scalar ' ' :: s.value

/-! ## Reading -/

/-- Where the reader of a line stands, with what it has read. -/
inductive Reader where
  | inName (name : PyStr)
  | inKey (name : PyStr) (labels : List (PyStr × PyStr)) (key : PyStr)
  | atQuote (name : PyStr) (labels : List (PyStr × PyStr)) (key : PyStr)
  | inText (name : PyStr) (labels : List (PyStr × PyStr)) (key text : PyStr)
  | inEscape (name : PyStr) (labels : List (PyStr × PyStr)) (key text : PyStr)
  | atNext (name : PyStr) (labels : List (PyStr × PyStr))
  | atSpace (name : PyStr) (labels : List (PyStr × PyStr))
  | inValue (name : PyStr) (labels : List (PyStr × PyStr)) (value : PyStr)

namespace Reader

/-- The reader takes a character, unless it does not belong there. -/
def step : Reader → PyChar → Option Reader
  | inName name, c =>
    if c = '{' then some (inKey name [] [])
    else if c = ' ' then some (inValue name [] [])
    else if isMetricChar c then some (inName (name ++ [c])) else none
  | inKey name labels key, c =>
    if c = '=' then some (atQuote name labels key)
    else if isLabelChar c then some (inKey name labels (key ++ [c])) else none
  | atQuote name labels key, c => if c = '"' then some (inText name labels key []) else none
  | inText name labels key text, c =>
    if c = '"' then some (atNext name (labels ++ [(key, text)]))
    else if c = '\\' then some (inEscape name labels key text)
    else if c = '\n' then none
    else some (inText name labels key (text ++ [c]))
  | inEscape name labels key text, c =>
    if c = 'n' then some (inText name labels key (text ++ [.scalar '\n']))
    else if c = '\\' ∨ c = '"' then some (inText name labels key (text ++ [c])) else none
  | atNext name labels, c =>
    if c = ',' then some (inKey name labels [])
    else if c = '}' then some (atSpace name labels) else none
  | atSpace name labels, c => if c = ' ' then some (inValue name labels []) else none
  | inValue name labels value, c =>
    if c = ' ' then none else some (inValue name labels (value ++ [c]))

/-- The sample at the end of a line. -/
def finish : Reader → Option Sample
  | inValue name labels value =>
    if isMetricName name ∧ (labels.all fun p => isLabelName p.1) ∧ value ≠ [] then
      some ⟨name, labels, value⟩ else none
  | _ => none

/-- The reader over a text. -/
def run (r : Reader) (text : PyStr) : Option Reader := text.foldlM step r

theorem run_append (r : Reader) (s t : PyStr) : r.run (s ++ t) = (r.run s).bind (·.run t) := by
  rw [run, List.foldlM_append]
  rfl

theorem run_cons (r : Reader) (c : PyChar) (t : PyStr) : r.run (c :: t) = (r.step c).bind (·.run t) :=
  rfl

end Reader

/-- The sample of a line. -/
def readSample (line : PyStr) : Option Sample := ((Reader.inName []).run line).bind Reader.finish

/-- A line that holds a sample: it is not empty and no comment. -/
def isSampleLine : PyStr → Bool
  | [] => false
  | c :: _ => c ≠ '#'

/-- The samples of an exposition. -/
def readExposition (text : PyStr) : Option (List Sample) :=
  ((text.splitOn (.scalar '\n')).filter isSampleLine).mapM readSample

/-! ## Reading what was written -/

/-- A sample whose names are names, and whose value is a word. -/
structure Sample.Proper (s : Sample) : Prop where
  name : isMetricName s.name = true
  labels : ∀ p ∈ s.labels, isLabelName p.1 = true
  value_ne : s.value ≠ []
  value_word : ∀ c ∈ s.value, c ≠ ' ' ∧ c ≠ '\n'

theorem isMetricChar_of_mem {s : PyStr} (h : isMetricName s = true) {c : PyChar} (hc : c ∈ s) :
    isMetricChar c = true := by
  cases s with
  | nil => cases hc
  | cons d s =>
    simp only [isMetricName, Bool.and_eq_true, List.all_eq_true] at h
    rcases List.mem_cons.mp hc with rfl | hc
    · exact h.1.1
    · exact h.2 c hc

theorem isLabelChar_of_mem {s : PyStr} (h : isLabelName s = true) {c : PyChar} (hc : c ∈ s) :
    isLabelChar c = true := by
  cases s with
  | nil => cases hc
  | cons d s =>
    simp only [isLabelName, Bool.and_eq_true, List.all_eq_true] at h
    rcases List.mem_cons.mp hc with rfl | hc
    · exact h.1.1
    · exact h.2 c hc

namespace Reader

theorem run_name {s : PyStr} (hs : ∀ c ∈ s, isMetricChar c = true) (name : PyStr) :
    (inName name).run s = some (inName (name ++ s)) := by
  induction s generalizing name with
  | nil => rw [List.append_nil]; rfl
  | cons c s ih =>
    have hc := hs c (.head _)
    have hbrace : c ≠ '{' := by rintro rfl; revert hc; decide
    have hspace : c ≠ ' ' := by rintro rfl; revert hc; decide
    rw [run_cons, step, if_neg hbrace, if_neg hspace, if_pos hc, Option.bind_some,
      ih (fun d hd => hs d (.tail _ hd)), List.append_assoc, List.singleton_append]

variable (name : PyStr) (labels : List (PyStr × PyStr))

theorem run_key {s : PyStr} (hs : ∀ c ∈ s, isLabelChar c = true) (key : PyStr) :
    (inKey name labels key).run s = some (inKey name labels (key ++ s)) := by
  induction s generalizing key with
  | nil => rw [List.append_nil]; rfl
  | cons c s ih =>
    have hc := hs c (.head _)
    have hequals : c ≠ '=' := by rintro rfl; revert hc; decide
    rw [run_cons, step, if_neg hequals, if_pos hc, Option.bind_some,
      ih (fun d hd => hs d (.tail _ hd)), List.append_assoc, List.singleton_append]

/-- One character of a label value is read as it was meant. -/
theorem run_escapeChar (key text : PyStr) (c : PyChar) :
    (inText name labels key text).run (escapeChar c) = some (inText name labels key (text ++ [c])) := by
  unfold escapeChar
  by_cases hbackslash : c = '\\'
  · rw [if_pos hbackslash, hbackslash]
    rfl
  by_cases hfeed : c = '\n'
  · rw [if_neg hbackslash, if_pos hfeed, hfeed]
    rfl
  by_cases hquote : c = '"'
  · rw [if_neg hbackslash, if_neg hfeed, if_pos hquote, hquote]
    rfl
  rw [if_neg hbackslash, if_neg hfeed, if_neg hquote, run_cons, step, if_neg hquote,
    if_neg hbackslash, if_neg hfeed]
  rfl

theorem run_escape (key text s : PyStr) :
    (inText name labels key text).run (escape s) = some (inText name labels key (text ++ s)) := by
  induction s generalizing text with
  | nil => rw [List.append_nil]; rfl
  | cons c s ih =>
    rw [escape, List.flatMap_cons, run_append, run_escapeChar, Option.bind_some, ← escape, ih,
      List.append_assoc, List.singleton_append]

theorem run_writePair {p : PyStr × PyStr} (hp : isLabelName p.1 = true) :
    (inKey name labels []).run (writePair p) = some (atNext name (labels ++ [p])) := by
  rw [writePair, run_append, run_append, run_append,
    run_key name labels fun _ hc => isLabelChar_of_mem hp hc]
  show ((inText name labels p.1 []).run (escape p.2)).bind (fun r => r.run "\"") = _
  rw [run_escape]
  rfl

/-- Every pair is read, whatever its value. -/
theorem run_writePairs {ps : List (PyStr × PyStr)} (hne : ps ≠ [])
    (hps : ∀ p ∈ ps, isLabelName p.1 = true) :
    (inKey name labels []).run (writePairs ps) = some (atSpace name (labels ++ ps)) := by
  induction ps generalizing labels with
  | nil => exact absurd rfl hne
  | cons p ps ih =>
    have hp := hps p (.head _)
    cases ps with
    | nil =>
      rw [writePairs, run_append, run_writePair name labels hp]
      rfl
    | cons q ps =>
      have hrest := ih (labels ++ [p]) (List.cons_ne_nil _ _) fun r hr => hps r (.tail _ hr)
      rw [writePairs, run_append, run_writePair name labels hp]
      · show (inKey name (labels ++ [p]) []).run (writePairs (q :: ps)) = _
        rw [hrest, List.append_assoc, List.singleton_append]
      · rintro ⟨⟩

theorem run_value {s : PyStr} (hs : ∀ c ∈ s, c ≠ ' ') (value : PyStr) :
    (inValue name labels value).run s = some (inValue name labels (value ++ s)) := by
  induction s generalizing value with
  | nil => rw [List.append_nil]; rfl
  | cons c s ih =>
    rw [run_cons, step, if_neg (hs c (.head _)), Option.bind_some,
      ih (fun d hd => hs d (.tail _ hd)), List.append_assoc, List.singleton_append]

end Reader

/-- A sample is read back from its line. -/
theorem readSample_write {s : Sample} (h : s.Proper) : readSample s.write = some s := by
  have hfinish : (Reader.inValue s.name s.labels s.value).finish = some s :=
    if_pos ⟨h.name, List.all_eq_true.mpr h.labels, h.value_ne⟩
  have hvalue := Reader.run_value s.name s.labels (fun c hc => (h.value_word c hc).1) []
  have hrun : (Reader.inName []).run s.write = some (Reader.inValue s.name s.labels s.value) := by
    rw [Sample.write, Reader.run_append, Reader.run_append,
      Reader.run_name fun _ hc => isMetricChar_of_mem h.name hc, writeLabels]
    by_cases hlabels : s.labels = []
    · rw [if_pos hlabels]
      rw [hlabels] at hvalue ⊢
      exact hvalue
    · rw [if_neg hlabels]
      show ((Reader.inKey s.name [] []).run (writePairs s.labels)).bind
        (fun r => r.run (.scalar ' ' :: s.value)) = _
      rw [Reader.run_writePairs s.name [] hlabels h.labels]
      exact hvalue
  rw [readSample, hrun, Option.bind_some, hfinish]

/-! ## Lines -/

/-- An escaped value stays in its line. -/
theorem feed_not_mem_escape (s : PyStr) : PyChar.scalar '\n' ∉ escape s := by
  intro h
  obtain ⟨c, -, hc⟩ := List.mem_flatMap.mp h
  unfold escapeChar at hc
  split at hc
  · revert hc; decide
  split at hc
  · revert hc; decide
  split at hc
  · revert hc; decide
  · next hfeed _ => exact hfeed (List.mem_singleton.mp hc).symm

theorem feed_not_mem_writePair {p : PyStr × PyStr} (hp : isLabelName p.1 = true) :
    PyChar.scalar '\n' ∉ writePair p := by
  have hkey : PyChar.scalar '\n' ∉ p.1 := fun h => by
    have := isLabelChar_of_mem hp h
    revert this
    decide
  have hequals : PyChar.scalar '\n' ∉ ("=\"" : PyStr) := by decide
  have hquote : PyChar.scalar '\n' ∉ ("\"" : PyStr) := by decide
  rw [writePair, List.mem_append, List.mem_append, List.mem_append]
  rintro (((h | h) | h) | h)
  · exact hkey h
  · exact hequals h
  · exact feed_not_mem_escape p.2 h
  · exact hquote h

theorem feed_not_mem_writePairs {ps : List (PyStr × PyStr)} (hps : ∀ p ∈ ps, isLabelName p.1 = true) :
    PyChar.scalar '\n' ∉ writePairs ps := by
  induction ps with
  | nil => decide
  | cons p ps ih =>
    have hp := feed_not_mem_writePair (hps p (.head _))
    cases ps with
    | nil =>
      rw [writePairs, List.mem_append, List.mem_singleton]
      rintro (h | h)
      · exact hp h
      · cases h
    | cons q ps =>
      rw [writePairs, List.mem_append, List.mem_cons]
      · rintro (h | h | h)
        · exact hp h
        · cases h
        · exact ih (fun r hr => hps r (.tail _ hr)) h
      · rintro ⟨⟩

/-- A sample is written in one line, which is no comment. -/
theorem Sample.Proper.line {s : Sample} (h : s.Proper) :
    PyChar.scalar '\n' ∉ s.write ∧ isSampleLine s.write = true := by
  constructor
  · have hname : PyChar.scalar '\n' ∉ s.name := fun hmem => by
      have := isMetricChar_of_mem h.name hmem
      revert this
      decide
    have hlabels : PyChar.scalar '\n' ∉ writeLabels s.labels := by
      unfold writeLabels
      split
      · exact List.not_mem_nil
      · rw [List.mem_cons]
        rintro (hmem | hmem)
        · cases hmem
        · exact feed_not_mem_writePairs h.labels hmem
    rw [Sample.write, List.mem_append, List.mem_append, List.mem_cons]
    rintro ((hmem | hmem) | hmem | hmem)
    · exact hname hmem
    · exact hlabels hmem
    · cases hmem
    · exact (h.value_word _ hmem).2 rfl
  · obtain ⟨c, name, hname⟩ : ∃ c name, s.name = c :: name := by
      cases hs : s.name with
      | nil =>
        have := h.name
        rw [hs] at this
        cases this
      | cons c name => exact ⟨c, name, rfl⟩
    have hc := isMetricChar_of_mem h.name (hname ▸ List.mem_cons_self)
    rw [Sample.write, hname]
    refine decide_eq_true ?_
    rintro rfl
    revert hc
    decide

/-- The lines of a text that ends with a line feed. -/
theorem splitOn_flatMap {lines : List PyStr} (h : ∀ line ∈ lines, PyChar.scalar '\n' ∉ line) :
    (lines.flatMap fun line => line ++ [.scalar '\n']).splitOn (PyChar.scalar '\n') = lines ++ [[]] := by
  induction lines with
  | nil => rfl
  | cons line lines ih =>
    have hline := h line (.head _)
    rw [List.flatMap_cons, List.append_assoc, List.singleton_append, List.splitOn_eq_splitOnP,
      List.splitOnP_append_cons_of_forall_mem _ _ (by decide), ← List.splitOn_eq_splitOnP,
      ih fun l hl => h l (.tail _ hl), List.cons_append]
    intro c hc
    rw [beq_eq_false_iff_ne]
    rintro rfl
    exact hline hc

end Iperf3Lib.Exposition
