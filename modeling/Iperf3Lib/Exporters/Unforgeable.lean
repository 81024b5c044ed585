import Iperf3Lib.Exporters.Prometheus
import Iperf3Lib.General.Except
import Iperf3Lib.Py.Json.Text

/-!
# Labels cannot forge samples

What `render_text` writes is read back as the samples that were emitted. The three replacements of
`_escape_label` amount to one escape for each character, so that every line is the line of a proper
sample; the families keep the samples of one name together, in the order of their emission. Labels are
sorted by distinct names, and so the check of the identities forbids the same label set in any order.
-/

namespace Iperf3Lib.Prometheus

open Py Exposition Json

/-! ## Lines -/

/-- The replacements escape each character once. -/
theorem escapeLabel_eq (s : PyStr) : escapeLabel s = escape s := by
  simp only [escapeLabel, replaceChar, escape, List.flatMap_assoc]
  congr 1
  funext c
  unfold Exposition.escapeChar
  by_cases hbackslash : c = '\\'
  · rw [if_pos hbackslash, if_pos hbackslash]
    decide
  by_cases hfeed : c = '\n'
  · rw [if_neg hbackslash, if_neg hbackslash, if_pos hfeed, hfeed]
    decide
  by_cases hquote : c = '"'
  · rw [if_neg hbackslash, if_neg hbackslash, if_neg hfeed, if_pos hquote, hquote]
    decide
  · simp [hbackslash, hfeed, hquote]

theorem intercalate_writePair {ps : Labels} (h : ps ≠ []) :
    List.intercalate [.scalar ','] (ps.map writePair) ++ [.scalar '}'] = writePairs ps := by
  induction ps with
  | nil => exact absurd rfl h
  | cons p ps ih =>
    cases ps with
    | nil => simp [writePairs, List.intercalate]
    | cons q ps =>
      rw [writePairs, ← ih (List.cons_ne_nil _ _)]
      · simp [List.intercalate]
      · rintro ⟨⟩

theorem sortLabels_perm (labels : Labels) : (sortLabels labels).Perm labels :=
  List.perm_insertionSort _ labels

/-- The text of labels is that of the sorted labels. -/
theorem labelText_eq (labels : Labels) : labelText labels = writeLabels (sortLabels labels) := by
  unfold labelText writeLabels
  by_cases h : labels = []
  · rw [if_pos h, h]
    rfl
  · have hsorted : sortLabels labels ≠ [] := fun hnil => h (hnil ▸ sortLabels_perm labels).symm.eq_nil
    rw [if_neg h, if_neg hsorted, ← intercalate_writePair hsorted, List.cons_append]
    simp only [escapeLabel_eq]
    rfl

/-! ## Values -/

/-- A character of a number text. -/
def IsNumberChar (c : Char) : Prop := c.isDigit = true ∨ c = '-' ∨ c = '+' ∨ c = '.' ∨ c = 'e'

theorem IsNumberChar.word {c : Char} (h : IsNumberChar c) :
    PyChar.scalar c ≠ ' ' ∧ PyChar.scalar c ≠ '\n' := by
  constructor
  all_goals
    intro hc
    obtain rfl := PyChar.scalar.inj hc
    revert h
    simp [IsNumberChar]

theorem isNumberChar_numberText {neg : Bool} {ds fs : List Char} {e : Option (Bool × List Char)}
    (hds : AllDigits ds) (hfs : AllDigits fs) (he : ExpDigits e) :
    ∀ c ∈ Json.numberText neg ds fs e, IsNumberChar c := by
  have hdigit : ∀ {cs : List Char}, AllDigits cs → ∀ c ∈ cs, IsNumberChar c :=
    fun h c hc => .inl (h c hc)
  intro c hc
  simp only [Json.numberText, List.mem_append] at hc
  rcases hc with ((hc | hc) | hc) | hc
  · cases neg with
    | false => cases hc
    | true => exact .inr (.inl (List.mem_singleton.mp hc))
  · exact hdigit hds c hc
  · split at hc
    · cases hc
    · rcases List.mem_cons.mp hc with rfl | hc
      · exact .inr (.inr (.inr (.inl rfl)))
      · exact hdigit hfs c hc
  · cases e with
    | none => cases hc
    | some p =>
      simp only [expText, List.mem_cons] at hc
      rcases hc with rfl | hc | hc
      · exact .inr (.inr (.inr (.inr rfl)))
      · split at hc
        · exact .inr (.inl hc)
        · exact .inr (.inr (.inl hc))
      · exact hdigit (he p rfl).1 c hc

/-- The text of a value is a word. -/
theorem numberText_word (x : Finite64) :
    Prometheus.numberText x ≠ [] ∧ ∀ c ∈ Prometheus.numberText x, IsNumberChar c := by
  unfold Prometheus.numberText
  split
  · have hdigits := intDigits_toDigits x.toRat.num.natAbs
    refine ⟨?_, isNumberChar_numberText hdigits.all (by simp [AllDigits]) (by simp [ExpDigits])⟩
    simp [intRepr, Json.numberText, hdigits.ne_nil]
  · obtain ⟨ds, fs, e, hds, hfs, he, htext, -⟩ := exists_floatRepr x
    rw [htext]
    refine ⟨?_, isNumberChar_numberText hds.all hfs he⟩
    simp [Json.numberText, hds.ne_nil]

theorem number_eq_some {value : Option PyNum} {text : PyStr} (h : number value = .ok (some text)) :
    text ≠ [] ∧ ∀ c ∈ text, c ≠ ' ' ∧ c ≠ '\n' := by
  cases value with
  | none => cases h
  | some value =>
    obtain ⟨x, -, h⟩ := bind_eq_ok.mp h
    cases x with
    | finite x =>
      obtain rfl := Option.some.inj (Except.ok.inj h)
      obtain ⟨hne, hword⟩ := numberText_word x
      refine ⟨by simpa using hne, fun c hc => ?_⟩
      obtain ⟨d, hd, rfl⟩ := List.mem_map.mp hc
      exact (hword d hd).word
    | inf b => cases h
    | nan => cases h

/-! ## Families -/

/-- A line goes to the end of its family, and a new family to the end of the families. -/
theorem addLine_eq (name help line : PyStr) {families : List Family}
    (hnodup : (families.map Family.name).Nodup) :
    addLine name help line families =
      (families.map fun f => if f.name = name then { f with lines := f.lines ++ [line] } else f) ++
        if name ∈ families.map Family.name then [] else [⟨name, help, [line]⟩] := by
  induction families with
  | nil => rfl
  | cons g families ih =>
    rw [List.map_cons, List.nodup_cons] at hnodup
    rw [addLine, List.map_cons, List.map_cons]
    by_cases hg : g.name = name
    · have hrest : (families.map fun f =>
          if f.name = name then { f with lines := f.lines ++ [line] } else f) = families := by
        refine (List.map_congr_left fun f hf => ?_).trans (List.map_id families)
        have hne : f.name ≠ name := by
          rintro rfl
          exact hnodup.1 (hg ▸ List.mem_map_of_mem hf)
        exact if_neg hne
      rw [if_pos hg, if_pos hg, hrest, if_pos (hg ▸ List.mem_cons_self), List.append_nil]
    · rw [if_neg hg, if_neg hg, ih hnodup.2, List.cons_append]
      simp only [List.mem_cons, Ne.symm hg, false_or]

theorem map_name_addLine (name help line : PyStr) {families : List Family}
    (hnodup : (families.map Family.name).Nodup) :
    (addLine name help line families).map Family.name =
      families.map Family.name ++ if name ∈ families.map Family.name then [] else [name] := by
  rw [addLine_eq name help line hnodup, List.map_append, List.map_map]
  congr 1
  · apply List.map_congr_left
    intro f _
    show (if f.name = name then { f with lines := f.lines ++ [line] } else f).name = f.name
    split <;> rfl
  · split <;> rfl

/-- The output holds the lines of some samples, by families. -/
structure Written (output : Output) (samples : List Sample) : Prop where
  identities : output.identities = samples.map fun s => (s.name, s.labels)
  distinct : output.identities.Nodup
  proper : ∀ s ∈ samples, s.Proper
  families_nodup : (output.families.map Family.name).Nodup
  covered : ∀ s ∈ samples, s.name ∈ output.families.map Family.name
  lines : ∀ f ∈ output.families, f.lines = (samples.filter fun s => s.name = f.name).map Sample.write
  headed : ∀ f ∈ output.families, PyChar.scalar '\n' ∉ f.name ∧ PyChar.scalar '\n' ∉ f.help

theorem Written.empty : Written {} [] :=
  ⟨rfl, List.nodup_nil, by simp, List.nodup_nil, by simp, by simp, by simp⟩

/-- The output with the line of another sample. -/
theorem Written.add {output : Output} {samples : List Sample} (h : Written output samples) {s : Sample}
    (hs : s.Proper) (hnew : (s.name, s.labels) ∉ output.identities) {help : PyStr}
    (hhelp : PyChar.scalar '\n' ∉ help) :
    Written ⟨addLine s.name help s.write output.families, output.identities ++ [(s.name, s.labels)]⟩
      (samples ++ [s]) where
  identities := by
    show output.identities ++ _ = _
    rw [h.identities, List.map_append, List.map_singleton]
  distinct := List.nodup_append.mpr ⟨h.distinct, List.nodup_singleton _, by
    rintro a ha b hb rfl
    exact hnew (List.mem_singleton.mp hb ▸ ha)⟩
  proper t ht := by
    rcases List.mem_append.mp ht with ht | ht
    · exact h.proper t ht
    · exact List.mem_singleton.mp ht ▸ hs
  families_nodup := by
    rw [map_name_addLine _ _ _ h.families_nodup]
    split
    · rw [List.append_nil]
      exact h.families_nodup
    · next hmem =>
      refine List.nodup_append.mpr ⟨h.families_nodup, List.nodup_singleton _, ?_⟩
      rintro a ha b hb rfl
      exact hmem (List.mem_singleton.mp hb ▸ ha)
  covered t ht := by
    rw [map_name_addLine _ _ _ h.families_nodup, List.mem_append]
    rcases List.mem_append.mp ht with ht | ht
    · exact .inl (h.covered t ht)
    · obtain rfl := List.mem_singleton.mp ht
      by_cases hmem : t.name ∈ output.families.map Family.name
      · exact .inl hmem
      · rw [if_neg hmem]
        exact .inr (.head _)
  lines f hf := by
    have hnone : ∀ {name : PyStr}, name ≠ s.name →
        (([s] : List Sample).filter fun t => t.name = name) = [] := fun hne =>
      List.filter_eq_nil_iff.mpr fun t ht => by
        rw [List.mem_singleton.mp ht, decide_eq_true_eq]
        exact Ne.symm hne
    have hself : (([s] : List Sample).filter fun t => t.name = s.name) = [s] := by simp
    rw [addLine_eq _ _ _ h.families_nodup, List.mem_append] at hf
    rw [List.filter_append, List.map_append]
    rcases hf with hf | hf
    · obtain ⟨g, hg, rfl⟩ := List.mem_map.mp hf
      by_cases hname : g.name = s.name
      · rw [if_pos hname]
        show g.lines ++ [s.write] = _
        rw [h.lines g hg]
        show _ = _ ++ (([s].filter fun t => t.name = g.name).map Sample.write)
        rw [hname, hself]
        rfl
      · rw [if_neg hname, hnone hname, h.lines g hg, List.map_nil, List.append_nil]
    · split at hf
      · cases hf
      · next hmem =>
        obtain rfl := List.mem_singleton.mp hf
        have hold : (samples.filter fun t => t.name = s.name) = [] :=
          List.filter_eq_nil_iff.mpr fun t ht heq =>
            hmem (of_decide_eq_true heq ▸ h.covered t ht)
        show [s.write] = _
        rw [hold, hself]
        rfl
  headed f hf := by
    have hname : PyChar.scalar '\n' ∉ s.name := fun hmem => by
      have := isMetricChar_of_mem hs.name hmem
      revert this
      decide
    rw [addLine_eq _ _ _ h.families_nodup, List.mem_append] at hf
    rcases hf with hf | hf
    · obtain ⟨g, hg, rfl⟩ := List.mem_map.mp hf
      split
      · exact h.headed g hg
      · exact h.headed g hg
    · split at hf
      · cases hf
      · obtain rfl := List.mem_singleton.mp hf
        exact ⟨hname, hhelp⟩

/-! ## Reading the output -/

theorem feed_not_mem_comment {f : Family}
    (h : PyChar.scalar '\n' ∉ f.name ∧ PyChar.scalar '\n' ∉ f.help) :
    PyChar.scalar '\n' ∉ ("# HELP " : PyStr) ++ f.name ++ .scalar ' ' :: f.help ∧
      PyChar.scalar '\n' ∉ ("# TYPE " : PyStr) ++ f.name ++ (" gauge" : PyStr) := by
  have hhelp : PyChar.scalar '\n' ∉ ("# HELP " : PyStr) := by decide
  have htype : PyChar.scalar '\n' ∉ ("# TYPE " : PyStr) := by decide
  have hgauge : PyChar.scalar '\n' ∉ (" gauge" : PyStr) := by decide
  constructor
  · rw [List.mem_append, List.mem_append, List.mem_cons]
    rintro ((hmem | hmem) | hmem | hmem)
    · exact hhelp hmem
    · exact h.1 hmem
    · cases hmem
    · exact h.2 hmem
  · rw [List.mem_append, List.mem_append]
    rintro ((hmem | hmem) | hmem)
    · exact htype hmem
    · exact h.1 hmem
    · exact hgauge hmem

theorem intercalate_feed {lines : List PyStr} (h : lines ≠ []) :
    List.intercalate [.scalar '\n'] lines ++ [.scalar '\n'] =
      lines.flatMap fun line => line ++ [.scalar '\n'] := by
  induction lines with
  | nil => exact absurd rfl h
  | cons line lines ih =>
    cases lines with
    | nil => simp [List.intercalate]
    | cons next lines =>
      rw [List.flatMap_cons, ← ih (List.cons_ne_nil _ _)]
      simp [List.intercalate]

theorem mapM_readSample {samples : List Sample} (h : ∀ s ∈ samples, s.Proper) :
    (samples.map Sample.write).mapM readSample = some samples := by
  induction samples with
  | nil => rfl
  | cons s samples ih =>
    rw [List.map_cons, List.mapM_cons, readSample_write (h s (.head _)),
      ih fun t ht => h t (.tail _ ht)]
    rfl

/-- The samples of the output, family by family. -/
def byFamily (output : Output) (samples : List Sample) : List Sample :=
  output.families.flatMap fun f => samples.filter fun s => s.name = f.name

/-- The output is read as its samples. -/
theorem Written.read {output : Output} {samples : List Sample} (h : Written output samples)
    (hne : output.families ≠ []) :
    readExposition (List.intercalate [.scalar '\n'] (output.families.flatMap Family.text) ++
      [.scalar '\n']) = some (byFamily output samples) := by
  have htext : output.families.flatMap Family.text ≠ [] := by
    obtain ⟨f, families, hfamilies⟩ := List.exists_cons_of_ne_nil hne
    rw [hfamilies, List.flatMap_cons]
    exact List.append_ne_nil_of_left_ne_nil (List.cons_ne_nil _ _) _
  have hlines : ∀ line ∈ output.families.flatMap Family.text, PyChar.scalar '\n' ∉ line := by
    intro line hline
    obtain ⟨f, hf, hline⟩ := List.mem_flatMap.mp hline
    obtain ⟨hhelp, htype⟩ := feed_not_mem_comment (h.headed f hf)
    simp only [Family.text, List.cons_append, List.nil_append, List.mem_cons] at hline
    rcases hline with rfl | rfl | hline
    · exact hhelp
    · exact htype
    · rw [h.lines f hf] at hline
      obtain ⟨s, hs, rfl⟩ := List.mem_map.mp hline
      exact ((h.proper s (List.mem_of_mem_filter hs)).line).1
  -- comments and the empty end of the text are left out
  have hkept : ((output.families.flatMap Family.text) ++ [[]]).filter isSampleLine =
      (byFamily output samples).map Sample.write := by
    rw [List.filter_append, List.filter_flatMap, byFamily, List.map_flatMap]
    rw [show (([[]] : List PyStr).filter isSampleLine) = [] from rfl, List.append_nil]
    apply List.flatMap_congr
    intro f hf
    rw [Family.text, h.lines f hf, List.filter_append]
    show ([] : List PyStr) ++ _ = _
    rw [List.nil_append, List.filter_eq_self]
    intro line hline
    obtain ⟨s, hs, rfl⟩ := List.mem_map.mp hline
    exact ((h.proper s (List.mem_of_mem_filter hs)).line).2
  rw [readExposition, intercalate_feed htext, splitOn_flatMap hlines, hkept]
  apply mapM_readSample
  intro s hs
  obtain ⟨f, -, hs⟩ := List.mem_flatMap.mp hs
  exact h.proper s (List.mem_of_mem_filter hs)

/-- Within a family, the samples are in their order. -/
theorem filter_byFamily {output : Output} {samples : List Sample} (h : Written output samples)
    (name : PyStr) :
    ((byFamily output samples).filter fun s => s.name = name) =
      samples.filter fun s => s.name = name := by
  have hcovered := h.covered
  have hnodup := h.families_nodup
  rw [byFamily, List.filter_flatMap]
  have hfilter : ∀ n : PyStr, ((samples.filter fun s => s.name = n).filter fun s => s.name = name) =
      if n = name then samples.filter fun s => s.name = name else [] := by
    intro n
    by_cases hn : n = name
    · rw [if_pos hn, hn, List.filter_filter]
      simp only [Bool.and_self]
    · rw [if_neg hn, List.filter_filter, List.filter_eq_nil_iff]
      intro s _ hs
      rw [Bool.and_eq_true, decide_eq_true_eq, decide_eq_true_eq] at hs
      exact hn (hs.2.symm.trans hs.1)
  simp only [hfilter]
  by_cases hmem : name ∈ output.families.map Family.name
  · clear hcovered
    revert hmem hnodup
    generalize output.families = families
    intro hnodup hmem
    induction families with
    | nil => cases hmem
    | cons f families ih =>
      rw [List.map_cons, List.nodup_cons] at hnodup
      rw [List.flatMap_cons]
      by_cases hf : f.name = name
      · have hrest : (families.flatMap fun g =>
            if g.name = name then samples.filter fun s => s.name = name else []) = [] := by
          rw [List.flatMap_eq_nil_iff]
          intro g hg
          refine if_neg fun hgn => hnodup.1 ?_
          rw [hf, ← hgn]
          exact List.mem_map_of_mem hg
        rw [if_pos hf, hrest, List.append_nil]
      · rw [if_neg hf, List.nil_append]
        refine ih hnodup.2 ?_
        rcases List.mem_cons.mp hmem with hname | hmem
        · exact absurd hname.symm hf
        · exact hmem
  · have hnone : (samples.filter fun s => s.name = name) = [] :=
      List.filter_eq_nil_iff.mpr fun s hs heq => hmem (of_decide_eq_true heq ▸ hcovered s hs)
    rw [hnone, List.flatMap_eq_nil_iff]
    intro f _
    split <;> rfl

/-- The output holds exactly the samples. -/
theorem byFamily_perm {output : Output} {samples : List Sample} (h : Written output samples) :
    (byFamily output samples).Perm samples := by
  rw [List.perm_iff_count]
  intro s
  have hcount : ∀ l : List Sample, (l.filter fun t => t.name = s.name).count s = l.count s :=
    fun l => List.count_filter (decide_eq_true rfl)
  rw [← hcount, filter_byFamily h, hcount]

/-! ## Label sets -/

theorem ord_injective : Function.Injective PyChar.ord := by
  have hchr : Function.LeftInverse PyChar.chr PyChar.ord := by
    intro c
    cases c with
    | scalar c => exact chr_toNat c
    | surrogate n => exact chr_surrogate n
  exact hchr.injective

theorem labelKey_inj {p q : PyStr × PyStr} : labelKey p = labelKey q ↔ p.1 = q.1 :=
  (List.map_injective_iff.mpr ord_injective).eq_iff

theorem sortLabels_sorted (labels : Labels) :
    (sortLabels labels).Pairwise fun p q => labelKey p ≤ labelKey q :=
  pairwise_insertionSort_of_key (fun _ _ => Iff.rfl) labels

/-- Labels with distinct names that are sorted are equal as soon as they are the same labels. -/
theorem eq_of_perm_of_sorted {labels labels' : Labels} (h : labels.Perm labels')
    (hnodup : (labels.map Prod.fst).Nodup) (hs : labels.Pairwise fun p q => labelKey p ≤ labelKey q)
    (hs' : labels'.Pairwise fun p q => labelKey p ≤ labelKey q) : labels = labels' := by
  refine List.Perm.eq_of_pairwise (fun p q hp hq hle hge => ?_) hs hs' h
  obtain ⟨n, v⟩ := p
  obtain ⟨m, w⟩ := q
  obtain rfl : n = m := labelKey_inj.mp (le_antisymm hle hge)
  rw [eq_of_mem_of_nodup_keys hnodup hp (h.mem_iff.mpr hq)]

/-- The labels that `render_text` itself adds. -/
def Reserved (extra : Labels) : Prop :=
  extra = [] ∨ ∃ direction observer : PyStr, extra = ([("direction", direction), ("observer", observer)] : Labels)

theorem Reserved.mem {extra : Labels} (h : Reserved extra) {name : PyStr}
    (hname : name ∈ extra.map Prod.fst) : name ∈ reservedLabels ∧ isLabelName name = true := by
  rcases h with rfl | ⟨direction, observer, rfl⟩
  · cases hname
  · simp only [List.map_cons, List.map_nil, List.mem_cons, List.not_mem_nil, or_false] at hname
    rcases hname with rfl | rfl
    · exact ⟨.head _, by decide⟩
    · exact ⟨.tail _ (.head _), by decide⟩

theorem Reserved.nodup {extra : Labels} (h : Reserved extra) : (extra.map Prod.fst).Nodup := by
  rcases h with rfl | ⟨direction, observer, rfl⟩
  · exact List.nodup_nil
  · show (reservedLabels : List PyStr).Nodup
    decide

/-- Labels of a caller that passed the check. -/
structure Accepted (mapping : LabelMapping) (labels : Labels) : Prop where
  items : mapping.items = labels.map fun p => (p.1, PyVal.str p.2)
  names : ∀ p ∈ labels, isLabelName p.1 = true ∧ p.1 ∉ reservedLabels
  nodup : (labels.map Prod.fst).Nodup

theorem checkLabel_eq_ok {repr : PyStr → PyStr} {item : PyStr × PyVal} {p : PyStr × PyStr}
    (h : checkLabel repr item = .ok p) :
    item = (p.1, PyVal.str p.2) ∧ isLabelName p.1 = true ∧ p.1 ∉ reservedLabels := by
  obtain ⟨hreject, h⟩ := bind_unit_eq_ok.mp h
  have hname := reject_eq_ok.mp hreject
  rw [not_or, not_or, Bool.not_eq_false] at hname
  clear hreject
  obtain ⟨name, value⟩ := item
  dsimp only at h hname
  split at h
  · obtain rfl := Except.ok.inj h
    exact ⟨rfl, hname.1, hname.2.2⟩
  · cases h

theorem checkLabels_eq_ok {repr : PyStr → PyStr} {mapping : LabelMapping} {labels : Labels}
    (h : checkLabels repr mapping = .ok labels) : Accepted mapping labels := by
  have hitems : mapping.items = labels.map fun p => (p.1, PyVal.str p.2) := by
    have hpairs := (mapM_eq_ok.mp h).imp fun _ _ hp => (checkLabel_eq_ok hp).1
    rw [← List.forall₂_eq_eq_eq, List.forall₂_map_right_iff]
    exact hpairs
  refine ⟨hitems, forall_of_mapM (fun _ _ hp => (checkLabel_eq_ok hp).2) h, ?_⟩
  have hnodup := mapping.nodup
  rw [hitems, List.map_map] at hnodup
  exact hnodup

/-! ## Emission -/

/-- The samples of a call of `emit`: none where there is no value. -/
def emittedBy (labels : Labels) (e : Emission) : List Sample :=
  match number e.value with
  | .ok (some text) => [⟨e.gauge.name, sortLabels (merge labels e.extra), text⟩]
  | _ => []

/-- The samples of the calls, in their order. -/
def emitted (labels : Labels) (emissions : List Emission) : List Sample :=
  emissions.flatMap (emittedBy labels)

theorem Accepted.merge_eq {mapping : LabelMapping} {labels : Labels} (h : Accepted mapping labels)
    {extra : Labels} (hextra : Reserved extra) : merge labels extra = labels ++ extra := by
  rw [merge, List.filter_eq_self.mpr]
  intro p hp
  exact decide_eq_true fun hmem => (h.names p hp).2 (hextra.mem hmem).1

theorem Accepted.merge_nodup {mapping : LabelMapping} {labels : Labels} (h : Accepted mapping labels)
    {extra : Labels} (hextra : Reserved extra) : ((labels ++ extra).map Prod.fst).Nodup := by
  rw [List.map_append, List.nodup_append]
  refine ⟨h.nodup, hextra.nodup, ?_⟩
  rintro name hname _ hmem rfl
  obtain ⟨p, hp, rfl⟩ := List.mem_map.mp hname
  exact (h.names p hp).2 (hextra.mem hmem).1

theorem feed_not_mem_help (g : Gauge) : PyChar.scalar '\n' ∉ g.help := by
  cases g <;> decide

/-- A call of `emit` writes its sample. -/
theorem Written.emit {repr : PyStr → PyStr} {mapping : LabelMapping} {labels : Labels}
    (hlabels : Accepted mapping labels) {e : Emission} (hextra : Reserved e.extra)
    {output output' : Output} {samples : List Sample} (h : Written output samples)
    (hrun : emit repr labels output e = .ok output') :
    Written output' (samples ++ emittedBy labels e) := by
  obtain ⟨hname, hrun⟩ := bind_unit_eq_ok.mp hrun
  obtain ⟨formatted, hformatted, hrun⟩ := bind_eq_ok.mp hrun
  unfold emittedBy
  rw [hformatted]
  cases formatted with
  | none =>
    obtain rfl := Except.ok.inj hrun
    rw [List.append_nil]
    exact h
  | some text =>
    obtain ⟨hnew, hrun⟩ := bind_unit_eq_ok.mp hrun
    obtain ⟨hne, hword⟩ := number_eq_some hformatted
    have hproper : Sample.Proper ⟨e.gauge.name, sortLabels (merge labels e.extra), text⟩ := by
      refine ⟨Bool.not_eq_false _ ▸ reject_eq_ok.mp hname, fun p hp => ?_, hne, hword⟩
      have hp := (sortLabels_perm _).mem_iff.mp hp
      rw [hlabels.merge_eq hextra] at hp
      rcases List.mem_append.mp hp with hp | hp
      · exact (hlabels.names p hp).1
      · exact (hextra.mem (List.mem_map_of_mem hp)).2
    have hadd := h.add hproper (reject_eq_ok.mp hnew) (feed_not_mem_help e.gauge)
    obtain rfl := Except.ok.inj hrun
    rw [Sample.write, ← labelText_eq] at hadd
    exact hadd

/-- The calls of `emit` write their samples, in their order. -/
theorem Written.run {repr : PyStr → PyStr} {mapping : LabelMapping} {labels : Labels}
    (hlabels : Accepted mapping labels) {calls : List (Except Exc Emission)}
    (hextra : ∀ e, .ok e ∈ calls → Reserved e.extra) {output output' : Output} {samples : List Sample}
    (h : Written output samples)
    (hrun : calls.foldlM (fun output call => do Prometheus.emit repr labels output (← call)) output =
      .ok output') :
    ∃ emissions : List Emission, calls = emissions.map Except.ok ∧
      Written output' (samples ++ emitted labels emissions) := by
  induction calls generalizing output samples with
  | nil =>
    obtain rfl := Except.ok.inj hrun
    exact ⟨[], rfl, (List.append_nil samples).symm ▸ h⟩
  | cons call calls ih =>
    rw [List.foldlM_cons] at hrun
    obtain ⟨mid, hcall, hrest⟩ := bind_eq_ok.mp hrun
    obtain ⟨e, rfl, hemit⟩ := bind_eq_ok.mp hcall
    obtain ⟨emissions, rfl, hwritten⟩ := ih (fun e he => hextra e (.tail _ he))
      (h.emit hlabels (hextra e (.head _)) hemit) hrest
    refine ⟨e :: emissions, rfl, ?_⟩
    rw [emitted, List.flatMap_cons, ← emitted, ← List.append_assoc]
    exact hwritten

/-- The calls add no labels but the direction and the observer. -/
theorem reserved_of_mem_calls {result : Result} {lastSuccess : Option PyNum} {e : Emission}
    (h : .ok e ∈ calls result lastSuccess) : Reserved e.extra := by
  have hknown : ∀ {gauge : Gauge} {extra : Labels} {scale : PyNum → Except Exc PyNum}
      {value : Option PyNum}, .ok e ∈ known gauge extra scale value → e.extra = extra := by
    intro gauge extra scale value h
    cases value with
    | none => cases h
    | some value =>
      obtain ⟨scaled, -, h⟩ := bind_eq_ok.mp (List.mem_singleton.mp h).symm
      exact Except.ok.inj h ▸ rfl
  have hobserved : ∀ {direction : PyStr} {observer : ObservationPoint} {stats : Option SumStats},
      .ok e ∈ observed direction observer stats → Reserved e.extra := by
    intro direction observer stats h
    cases stats with
    | none => cases h
    | some stats =>
      refine .inr ⟨direction, observer.text, ?_⟩
      simp only [observed, List.mem_append, List.mem_singleton] at h
      rcases h with ((h | h) | h) | h
      · obtain ⟨scaled, -, h⟩ := bind_eq_ok.mp h.symm
        exact Except.ok.inj h ▸ rfl
      · exact hknown h
      · exact hknown h
      · exact hknown h
  simp only [calls, List.mem_append, List.mem_singleton] at h
  rcases h with ((h | h) | h) | h
  · exact .inl (Except.ok.inj h ▸ rfl)
  · exact .inl (hknown h)
  · exact .inl (Except.ok.inj h ▸ rfl)
  · split at h
    · obtain ⟨flow, -, h⟩ := List.mem_flatMap.mp h
      rcases List.mem_append.mp h with h | h
      · exact hobserved h
      · exact hobserved h
    · cases h

/-! ## The output -/

/-- A text is read as what was emitted: the same samples, those of one family in their order, each
with the labels of the caller and its own ones, and no name and label set twice. -/
structure Unforged (result : Result) (mapping : LabelMapping) (lastSuccess : Option PyNum)
    (text : PyStr) (labels : Labels) (emissions : List Emission) (samples : List Sample) : Prop where
  labels_eq : mapping.items = labels.map fun p => (p.1, PyVal.str p.2)
  calls_eq : calls result lastSuccess = emissions.map Except.ok
  read_eq : readExposition text = some samples
  perm : samples.Perm (emitted labels emissions)
  order : ∀ name, (samples.filter fun s => s.name = name) =
    (emitted labels emissions).filter fun s => s.name = name
  origin : ∀ s ∈ samples, ∃ e ∈ emissions, s.name = e.gauge.name ∧
    s.labels.Perm (labels ++ e.extra) ∧ number e.value = .ok (some s.value)
  distinct : samples.Pairwise fun s t => ¬ (s.name = t.name ∧ s.labels.Perm t.labels)

theorem mem_emitted {labels : Labels} {emissions : List Emission} {s : Sample}
    (h : s ∈ emitted labels emissions) : ∃ e ∈ emissions, s.name = e.gauge.name ∧
      s.labels = sortLabels (merge labels e.extra) ∧ number e.value = .ok (some s.value) := by
  obtain ⟨e, he, h⟩ := List.mem_flatMap.mp h
  unfold emittedBy at h
  split at h
  · next text htext =>
    obtain rfl := List.mem_singleton.mp h
    exact ⟨e, he, rfl, rfl, htext⟩
  · cases h

/-- Samples whose labels are sorted and have distinct names have distinct label sets as soon as their
identities are distinct. -/
theorem pairwise_of_identities {samples : List Sample}
    (hdistinct : (samples.map fun s => (s.name, s.labels)).Nodup)
    (hlabels : ∀ s ∈ samples, (s.labels.map Prod.fst).Nodup ∧
      s.labels.Pairwise fun p q => labelKey p ≤ labelKey q) :
    samples.Pairwise fun s t => ¬ (s.name = t.name ∧ s.labels.Perm t.labels) := by
  have hpairs : samples.Pairwise fun s t => (s.name, s.labels) ≠ (t.name, t.labels) :=
    List.pairwise_map.mp hdistinct
  refine List.Pairwise.imp_of_mem (fun {s t} hs ht hne hsame => hne ?_) hpairs
  obtain ⟨hnodup, hsorted⟩ := hlabels s hs
  rw [hsame.1, eq_of_perm_of_sorted hsame.2 hnodup hsorted (hlabels t ht).2]

/-- There is always a sample: the first one says whether the run was successful. -/
theorem exists_mem_emitted (labels : Labels) {result : Result} {lastSuccess : Option PyNum}
    {emissions : List Emission} (h : calls result lastSuccess = emissions.map Except.ok) :
    ∃ s, s ∈ emitted labels emissions := by
  have htext : ∀ ok : Bool, ∃ text, number (some (.int (if ok then 1 else 0))) = .ok (some text) := by
    intro ok
    cases ok with
    | false => exact ⟨"0", by decide +kernel⟩
    | true => exact ⟨"1", by decide +kernel⟩
  obtain ⟨text, htext⟩ := htext result.ok
  cases emissions with
  | nil => cases h
  | cons e emissions =>
    have hfirst := Except.ok.inj (List.cons.inj h).1
    rw [emitted, List.flatMap_cons, ← hfirst, emittedBy, htext]
    exact ⟨_, .head _⟩

/-- What `render_text` accepts is read back from its output, whatever the labels are. -/
theorem render_unforgeable {repr : PyStr → PyStr} {result : Result} {mapping : LabelMapping}
    {lastSuccess : Option PyNum} {text : PyStr}
    (h : renderText repr result mapping lastSuccess = .ok text) :
    ∃ labels emissions samples,
      Unforged result mapping lastSuccess text labels emissions samples := by
  obtain ⟨labels, hcheck, h⟩ := bind_eq_ok.mp h
  obtain ⟨output, hrun, h⟩ := bind_eq_ok.mp h
  obtain rfl := Except.ok.inj h
  have haccepted := checkLabels_eq_ok hcheck
  obtain ⟨emissions, hcalls, hwritten⟩ :=
    Written.run haccepted (fun e => reserved_of_mem_calls) .empty hrun
  rw [List.nil_append] at hwritten
  have hreserved : ∀ e ∈ emissions, Reserved e.extra := fun e he =>
    reserved_of_mem_calls (hcalls ▸ List.mem_map_of_mem he)
  have hperm := byFamily_perm hwritten
  have hfamilies : output.families ≠ [] := by
    obtain ⟨s, hs⟩ := exists_mem_emitted labels hcalls
    intro hnil
    have hcovered := hwritten.covered s hs
    rw [hnil] at hcovered
    cases hcovered
  have hidentities : ((byFamily output (emitted labels emissions)).map fun s =>
      (s.name, s.labels)).Nodup := by
    rw [(hperm.map _).nodup_iff, ← hwritten.identities]
    exact hwritten.distinct
  have horigin : ∀ s ∈ byFamily output (emitted labels emissions), ∃ e ∈ emissions,
      s.name = e.gauge.name ∧ s.labels = sortLabels (labels ++ e.extra) ∧
        number e.value = .ok (some s.value) := by
    intro s hs
    obtain ⟨e, he, hname, hlabels, hvalue⟩ := mem_emitted (hperm.mem_iff.mp hs)
    exact ⟨e, he, hname, haccepted.merge_eq (hreserved e he) ▸ hlabels, hvalue⟩
  refine ⟨labels, emissions, byFamily output (emitted labels emissions), haccepted.items, hcalls,
    hwritten.read hfamilies, hperm, filter_byFamily hwritten, fun s hs => ?_,
    pairwise_of_identities hidentities fun s hs => ?_⟩
  · obtain ⟨e, he, hname, hlabels, hvalue⟩ := horigin s hs
    exact ⟨e, he, hname, hlabels ▸ sortLabels_perm _, hvalue⟩
  · obtain ⟨e, he, -, hlabels, -⟩ := horigin s hs
    rw [hlabels]
    exact ⟨((sortLabels_perm _).map _).nodup_iff.mpr (haccepted.merge_nodup (hreserved e he)),
      sortLabels_sorted _⟩

/-- A label that looks like the end of its line and a sample of its own. -/
def forging : LabelMapping := ⟨[("note", .str "\\\"\x7d 1\niperf3_last_run_success 1")], by decide⟩

theorem render_unforgeable_forging : ∃ text, renderText id { ok := false } forging none = .ok text ∧
    ∃ labels emissions samples,
      Unforged { ok := false } forging none text labels emissions samples := by
  obtain ⟨text, htext⟩ := isOk_iff.mp
    (show (renderText id { ok := false } forging none).isOk = true by decide +kernel)
  exact ⟨text, htext, render_unforgeable htext⟩

end Iperf3Lib.Prometheus
