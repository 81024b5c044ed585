import Iperf3Lib.General.CommandLine
import Iperf3Lib.Native.Options

/-!
# What the setter calls say

Where all setters go through, the calls are the entries of a table with one row for each symbol. The
symbols are distinct, so the calls determine the table.
-/

namespace Iperf3Lib.Native

open Py CommandLine

/-! ## The table -/

/-- A symbol and the arguments it is called with. -/
abbrev CallRow := String × List SetterArgument

def integerRow (row : String × String × Option ℤ) : CallRow := (row.2.1, row.2.2.toList.map .int)

def booleanRow (row : String × String × Bool) : CallRow :=
  (row.2.1, if row.2.2 = true then [.int 1] else [])

def stringRow (row : String × String × Option PyStr) : CallRow :=
  (row.2.1, row.2.2.toList.map fun value => .text (value.utf8Encode.getD []))

/-- The row of the rate. -/
def rateRow (c : ClientConfig) : CallRow := ("iperf_set_test_rate", (nativeRate c).toList.map .int)

/-- The rows of all setters. -/
def callRows (c : ClientConfig) : List CallRow :=
  (integerSetters c).map integerRow ++ (booleanSetters c).map booleanRow ++
    (stringSetters c).map stringRow ++ [rateRow c]

/-! ## The calls -/

section Calls

variable {native : Library}

theorem applyInteger_eq {row : String × String × Option ℤ} {calls : List Call}
    (h : applyInteger native row = .ok calls) : calls = entries [integerRow row] := by
  obtain ⟨name, symbol, value⟩ := row
  cases value with
  | none =>
    cases h
    rfl
  | some value =>
    simp only [applyInteger, bind_unit_eq_ok, pure, Except.pure, Except.ok.injEq] at h
    exact h.2.symm

theorem applyBoolean_eq {row : String × String × Bool} {calls : List Call}
    (h : applyBoolean native row = .ok calls) : calls = entries [booleanRow row] := by
  obtain ⟨name, symbol, on⟩ := row
  cases on with
  | false =>
    cases h
    rfl
  | true =>
    simp only [applyBoolean, if_true, bind_unit_eq_ok, pure, Except.pure, Except.ok.injEq] at h
    exact h.2.2.symm

theorem cString_eq_ok {value : PyStr} {bytes : List UInt8} (h : cString value = .ok bytes) :
    value.utf8Encode = some bytes := by
  obtain ⟨_, -, h⟩ := bind_eq_ok.mp h
  split at h
  · next hbytes =>
    cases h
    exact hbytes
  · cases h

theorem applyString_eq {row : String × String × Option PyStr} {calls : List Call}
    (h : applyString native row = .ok calls) :
    calls = entries [stringRow row] ∧ ∀ value ∈ row.2.2, value.utf8Encode.isSome = true := by
  obtain ⟨name, symbol, value⟩ := row
  cases value with
  | none =>
    cases h
    exact ⟨rfl, by simp⟩
  | some value =>
    simp only [applyString, bind_eq_ok, pure, Except.pure, Except.ok.injEq] at h
    obtain ⟨_, -, bytes, hbytes, rfl⟩ := h
    have hencode := cString_eq_ok hbytes
    exact ⟨by simp [stringRow, hencode], by simp [hencode]⟩

/-- The calls of a loop, when those of one setter are the entries of its row. -/
theorem flatten_of_mapM {α : Type} {apply : α → Except Exc (List Call)} {row : α → CallRow}
    (happly : ∀ a calls, apply a = .ok calls → calls = entries [row a]) {setters : List α}
    {calls : List (List Call)} (h : setters.mapM apply = .ok calls) :
    calls.flatten = entries (setters.map row) := by
  rw [mapM_eq_ok] at h
  induction h with
  | nil => rfl
  | cons ha _ ih =>
    rw [List.flatten_cons, ih, happly _ _ ha, List.map_cons, entries_cons, entries_cons, entries_nil,
      List.append_nil]

/-- The calls are the entries of the table, and every text has a UTF-8 form. -/
theorem applySetters_eq {c : ClientConfig} {calls : List Call}
    (h : applySetters native c = .ok calls) :
    calls = entries (callRows c) ∧
      ∀ row ∈ stringSetters c, ∀ value ∈ row.2.2, value.utf8Encode.isSome = true := by
  simp only [applySetters, bind_eq_ok, pure, Except.pure, Except.ok.injEq] at h
  obtain ⟨integers, hintegers, booleans, hbooleans, strings, hstrings, rate, hrate, rfl⟩ := h
  constructor
  · rw [flatten_of_mapM (fun _ _ => applyInteger_eq) hintegers,
      flatten_of_mapM (fun _ _ => applyBoolean_eq) hbooleans,
      flatten_of_mapM (fun _ _ hs => (applyString_eq hs).1) hstrings, applyInteger_eq hrate, callRows,
      entries_append, entries_append, entries_append]
    rfl
  · intro row hrow
    obtain ⟨_, -, hone⟩ := exists_mem_of_forall₂ (mapM_eq_ok.mp hstrings) hrow
    exact (applyString_eq hone).2

end Calls

/-! ## The table from the calls -/

/-- All symbols, in the order of the table. -/
def symbols : List String :=
  ["iperf_set_test_server_port", "iperf_set_test_num_streams", "iperf_set_test_omit",
    "iperf_set_test_tos", "iperf_set_test_bind_port", "iperf_set_test_socket_bufsize",
    "iperf_set_test_mss", "iperf_set_test_connect_timeout", "iperf_set_test_bytes",
    "iperf_set_test_blocks", "iperf_set_test_burst", "iperf_set_test_pacing_timer",
    "iperf_set_test_no_delay", "iperf_set_test_zerocopy", "iperf_set_test_udp_counters_64bit",
    "iperf_set_dont_fragment", "iperf_set_test_repeating_payload", "iperf_set_test_get_server_output",
    "iperf_set_test_bind_address", "iperf_set_test_bind_dev", "iperf_set_test_congestion_control",
    "iperf_set_test_extra_data", "iperf_set_test_rate"]

theorem labels_callRows (c : ClientConfig) : (callRows c).map Prod.fst = symbols := rfl

theorem nodup_symbols : symbols.Nodup := by decide

/-- Equal calls come from equal tables. -/
theorem callRows_eq_of_applySetters_eq {native : Library} {c c' : ClientConfig} {calls : List Call}
    (h : applySetters native c = .ok calls) (h' : applySetters native c' = .ok calls) :
    callRows c = callRows c' := by
  have hentries := (applySetters_eq h).1.symm.trans (applySetters_eq h').1
  refine eq_of_entries_eq ?_ ?_ hentries
  · exact labels_callRows c ▸ nodup_symbols
  · rw [labels_callRows, labels_callRows]

end Iperf3Lib.Native
