import Mathlib.Data.List.Nodup
import Mathlib.Data.List.TakeWhile
import Mathlib.Tactic.Common

/-!
# Command lines

A command line is a list of tokens. A flag stands alone, or its value is the token behind it, or flag
and value share one token with a separator between them. A parser that takes the token behind every
flag with a value as that value reads back what was written, whatever the values look like: it never
examines a token that it takes as a value.

What is written comes from a table: for each label the values that are given for it, in the order of
the labels. With distinct labels the table is determined by the list of its entries.
-/

namespace Iperf3Lib.CommandLine

/-! ## Tokens -/

section Tokens

variable {χ : Type} [DecidableEq χ]

/-- How the value of a flag is given. -/
inductive Use (χ : Type) where
  | alone
  | behind (value : List χ)
  | joint (value : List χ)
deriving DecidableEq

/-- An argument: a flag and its use. -/
abbrev Argument (χ : Type) := List χ × Use χ

variable (separator : χ) (takesValue : List χ → Bool)

/-- The tokens of an argument. -/
def tokens : Argument χ → List (List χ)
  | (flag, .alone) => [flag]
  | (flag, .behind value) => [flag, value]
  | (flag, .joint value) => [flag ++ separator :: value]

/-- A token that takes no value behind it, split at the first separator. -/
def single (token : List χ) : Argument χ :=
  match token.dropWhile (· ≠ separator) with
  | [] => (token, .alone)
  | _ :: value => (token.takeWhile (· ≠ separator), .joint value)

/-- The parser; it fails where a flag lacks its value. -/
def read : List (List χ) → Option (List (Argument χ))
  | [] => some []
  | token :: rest =>
    if takesValue token = true then
      match rest with
      | [] => none
      | value :: rest => (read rest).map ((token, .behind value) :: ·)
    else (read rest).map (single separator token :: ·)

/-- The use of a flag is one that the parser expects. -/
def Expected : Argument χ → Prop
  | (flag, .alone) => separator ∉ flag ∧ takesValue flag = false
  | (flag, .behind _) => takesValue flag = true
  | (flag, .joint value) => separator ∉ flag ∧ takesValue (flag ++ separator :: value) = false

variable {separator : χ} {takesValue : List χ → Bool}

theorem single_alone {flag : List χ} (h : separator ∉ flag) :
    single separator flag = (flag, .alone) := by
  have hdrop : flag.dropWhile (· ≠ separator) = [] := by
    rw [List.dropWhile_eq_nil_iff]
    intro c hc
    simpa using ne_of_mem_of_not_mem hc h
  rw [single, hdrop]

theorem single_joint {flag : List χ} (h : separator ∉ flag) (value : List χ) :
    single separator (flag ++ separator :: value) = (flag, .joint value) := by
  have hall : ∀ c ∈ flag, (decide (c ≠ separator)) = true := by
    intro c hc
    simpa using ne_of_mem_of_not_mem hc h
  have hdrop : (flag ++ separator :: value).dropWhile (· ≠ separator) = separator :: value := by
    rw [List.dropWhile_append_of_pos hall]
    simp
  have htake : (flag ++ separator :: value).takeWhile (· ≠ separator) = flag := by
    rw [List.takeWhile_append_of_pos hall]
    simp
  rw [single, hdrop]
  exact congrArg (fun name => (name, Use.joint value)) htake

theorem read_cons_single {token : List χ} (h : takesValue token = false) (rest : List (List χ)) :
    read separator takesValue (token :: rest) =
      (read separator takesValue rest).map (single separator token :: ·) := by
  cases rest <;> simp [read, h]

theorem read_cons_behind {flag : List χ} (h : takesValue flag = true) (value : List χ)
    (rest : List (List χ)) :
    read separator takesValue (flag :: value :: rest) =
      (read separator takesValue rest).map ((flag, .behind value) :: ·) := by
  simp [read, h]

/-- What is written is read back. -/
theorem read_tokens {arguments : List (Argument χ)}
    (h : ∀ argument ∈ arguments, Expected separator takesValue argument) :
    read separator takesValue (arguments.flatMap (tokens separator)) = some arguments := by
  induction arguments with
  | nil => rfl
  | cons argument arguments ih =>
    have hrest := ih fun a ha => h a (List.mem_cons_of_mem _ ha)
    have hfirst := h argument List.mem_cons_self
    rw [List.flatMap_cons]
    obtain ⟨flag, use⟩ := argument
    cases use with
    | alone =>
      obtain ⟨hflag, htakes⟩ := hfirst
      simp [tokens, read_cons_single htakes, single_alone hflag, hrest]
    | behind value =>
      have htakes : takesValue flag = true := hfirst
      simp [tokens, read_cons_behind htakes, hrest]
    | joint value =>
      obtain ⟨hflag, htakes⟩ := hfirst
      simp [tokens, read_cons_single htakes, single_joint hflag, hrest]

end Tokens

/-! ## Tables -/

section Tables

variable {κ ν : Type}

/-- The entries of a table: every value with its label. -/
def entries (table : List (κ × List ν)) : List (κ × ν) :=
  table.flatMap fun row => row.2.map fun value => (row.1, value)

@[simp] theorem entries_nil : entries ([] : List (κ × List ν)) = [] := rfl

@[simp] theorem entries_cons (row : κ × List ν) (table : List (κ × List ν)) :
    entries (row :: table) = row.2.map (fun value => (row.1, value)) ++ entries table := by
  rw [entries, List.flatMap_cons]
  rfl

theorem entries_append (table table' : List (κ × List ν)) :
    entries (table ++ table') = entries table ++ entries table' := List.flatMap_append

/-- Selecting entries by their label is selecting rows. -/
theorem filter_entries (p : κ → Bool) (table : List (κ × List ν)) :
    (entries table).filter (fun entry => p entry.1) = entries (table.filter fun row => p row.1) := by
  induction table with
  | nil => rfl
  | cons row table ih =>
    rw [entries_cons, List.filter_append, ih, List.filter_cons]
    cases hp : p row.1 with
    | true => simp [List.filter_map, Function.comp_def, hp]
    | false => simp [List.filter_map, Function.comp_def, hp]

/-- A table of single uses has no more entries than rows. -/
theorem flatMap_entries_sublist {σ : Type} {table : List (κ × List ν)} (f : κ → List σ)
    (h : ∀ row ∈ table, row.2.length ≤ 1) :
    ((entries table).flatMap fun entry => f entry.1).Sublist (table.flatMap fun row => f row.1) := by
  induction table with
  | nil => exact .slnil
  | cons row table ih =>
    rw [entries_cons, List.flatMap_append, List.flatMap_cons]
    refine .append ?_ (ih fun r hr => h r (List.mem_cons_of_mem _ hr))
    have hlength := h row List.mem_cons_self
    obtain ⟨k, values⟩ := row
    match values, hlength with
    | [], _ => exact List.nil_sublist _
    | [value], _ => simp

theorem mem_labels_of_mem_entries {table : List (κ × List ν)} {entry : κ × ν}
    (h : entry ∈ entries table) : entry.1 ∈ table.map Prod.fst := by
  obtain ⟨row, hrow, hentry⟩ := List.mem_flatMap.mp h
  obtain ⟨value, -, rfl⟩ := List.mem_map.mp hentry
  exact List.mem_map_of_mem hrow

theorem mem_entries {table : List (κ × List ν)} {k : κ} {v : ν} :
    (k, v) ∈ entries table ↔ ∃ values, (k, values) ∈ table ∧ v ∈ values := by
  simp only [entries, List.mem_flatMap, List.mem_map, Prod.mk.injEq, Prod.exists]
  constructor
  · rintro ⟨_, values, hrow, v, hv, rfl, rfl⟩
    exact ⟨values, hrow, hv⟩
  · rintro ⟨values, hrow, hv⟩
    exact ⟨k, values, hrow, v, hv, rfl, rfl⟩

variable [DecidableEq κ]

/-- The values under a label that heads the table. -/
theorem filter_entries_cons {row : κ × List ν} {table : List (κ × List ν)}
    (h : row.1 ∉ table.map Prod.fst) :
    (entries (row :: table)).filter (fun entry => entry.1 = row.1) =
      row.2.map fun value => (row.1, value) := by
  rw [entries_cons, List.filter_append]
  have hrest : (entries table).filter (fun entry => entry.1 = row.1) = [] := by
    rw [List.filter_eq_nil_iff]
    intro entry hentry heq
    exact h (of_decide_eq_true heq ▸ mem_labels_of_mem_entries hentry)
  rw [hrest, List.append_nil, List.filter_eq_self]
  simp

/-- Tables with the same distinct labels and the same entries are the same. -/
theorem eq_of_entries_eq {table table' : List (κ × List ν)}
    (hnodup : (table.map Prod.fst).Nodup) (hlabels : table.map Prod.fst = table'.map Prod.fst)
    (h : entries table = entries table') : table = table' := by
  induction table generalizing table' with
  | nil =>
    cases table' with
    | nil => rfl
    | cons => cases hlabels
  | cons row table ih =>
    cases table' with
    | nil => cases hlabels
    | cons row' table' =>
      obtain ⟨k, values⟩ := row
      obtain ⟨k', values'⟩ := row'
      simp only [List.map_cons, List.cons.injEq] at hlabels
      obtain ⟨rfl, hlabels⟩ := hlabels
      rw [List.map_cons, List.nodup_cons] at hnodup
      have hleft := filter_entries_cons hnodup.1
      have hfresh : (k, values').1 ∉ table'.map Prod.fst := hlabels ▸ hnodup.1
      have hright := filter_entries_cons hfresh
      rw [h] at hleft
      have hpair : Function.Injective fun value : ν => (k, value) :=
        fun _ _ hv => (Prod.mk.inj hv).2
      have hvalues : values = values' :=
        List.map_injective_iff.mpr hpair (hleft.symm.trans hright)
      subst hvalues
      rw [entries_cons, entries_cons, List.append_cancel_left_eq] at h
      rw [ih hnodup.2 hlabels h]

end Tables

end Iperf3Lib.CommandLine
