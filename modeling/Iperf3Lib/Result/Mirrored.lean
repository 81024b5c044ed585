import Mathlib.Data.List.ReduceOption
import Iperf3Lib.Result.Outcome

/-!
# The two endpoints of a run

A client and a server that report on one run see every stream from its two ends: what one of them
sends the other receives, and each numbers its sockets itself. The directions that the normalizer
attributes to the streams of the two documents are the same.
-/

namespace Iperf3Lib

/-- The other observation point. -/
def ObservationPoint.opposite : ObservationPoint → ObservationPoint
  | .sender => .receiver
  | .receiver => .sender

end Iperf3Lib

namespace Iperf3Lib.Results

open Py

/-! ## The parts of a document -/

/-- The object at a key, empty where there is none. -/
def objectAt (data : PyDict) (name : String) : PyDict :=
  match data.get? name with
  | some (.dict value) => value
  | _ => []

/-- The objects of the array at a key. -/
def objectsAt (data : PyDict) (name : String) : List PyDict :=
  match data.get? name with
  | some (.list values) => values.filterMap fun
    | .dict value => some value
    | _ => none
  | _ => []

/-- The value of a flag, where it is given. -/
def flagAt (data : PyDict) (name : String) : Option Bool :=
  match data.get? name with
  | some (.bool b) => some b
  | some (.int n) => some (n = 1)
  | _ => none

/-- The number of the socket, where it is given. -/
def socketAt (data : PyDict) : Option ℤ := PyDict.int? data "socket"

/-- An endpoint observation of an end stream. -/
def endpointAt (stream : PyDict) (name : String) : Option (String × PyDict) :=
  match stream.get? name with
  | some (.dict value) => some (name, value)
  | _ => none

/-- The endpoint observations of an end stream. -/
def endpointsOf (stream : PyDict) : EndStream :=
  ["sender", "receiver", "udp"].filterMap (endpointAt stream)

/-- The entries of an end stream. -/
def dataOf (stream : EndStream) : List PyDict := stream.map Prod.snd

/-- The end streams of a document. -/
def endStreamsOf (raw : PyDict) : List EndStream :=
  (objectsAt (objectAt raw "end") "streams").map endpointsOf

/-- The streams of the intervals of a document, one after the other. -/
def intervalStreamsOf (raw : PyDict) : List PyDict :=
  (objectsAt raw "intervals").flatMap fun interval => objectsAt interval "streams"

/-- Everything that gives a sender flag for a socket. -/
def entriesOf (raw : PyDict) : List PyDict :=
  (endStreamsOf raw).flatMap dataOf ++ intervalStreamsOf raw

def testStartOf (raw : PyDict) : PyDict := objectAt (objectAt raw "start") "test_start"

/-- The explicit `reverse` flag. -/
def reverseFlag (raw : PyDict) : Option Bool := flagAt (testStartOf raw) "reverse"

/-- The explicit bidirectional flag, under either name. -/
def bidirectionalFlag (raw : PyDict) : Option Bool :=
  (flagAt (testStartOf raw) "bidir").or (flagAt (testStartOf raw) "bidirectional")

/-- There are summaries of a reverse flow. -/
def showsReverseFlow (raw : PyDict) : Bool := hasReverseSummaries (objectAt raw "end")

/-! ## Reading them -/

theorem flagAt_of_optionalFlag {data : PyDict} {name : String} {flag : Option Bool}
    (h : optionalFlag data name = .ok flag) : flagAt data name = flag := by
  unfold optionalFlag at h
  unfold flagAt
  split at h
  · next hnone =>
    rw [hnone]
    exact Except.ok.inj h
  · next b hb =>
    rw [hb]
    exact Except.ok.inj h
  · next n hn =>
    rw [hn]
    split_ifs at h with hzero hone
    · rw [hzero]
      exact Except.ok.inj h
    · rw [hone]
      exact Except.ok.inj h
    · cases h
  · cases h

theorem socketAt_of_optionalInteger {data : PyDict} {socket : Option ℤ}
    (h : optionalInteger data "socket" = .ok socket) : socketAt data = socket := by
  unfold optionalInteger at h
  unfold socketAt PyDict.int?
  split at h
  · next hnone =>
    rw [hnone]
    exact Except.ok.inj h
  · next hnone =>
    rw [hnone]
    exact Except.ok.inj h
  · next n hn =>
    rw [hn]
    obtain ⟨x, -, hx⟩ := map_eq_ok.mp h
    exact hx
  · cases h

/-- The sender flag that an entry gives for its socket. -/
def recordOf (data : PyDict) : SocketSenders :=
  match socketAt data, flagAt data "sender" with
  | some n, some b => [(n, b)]
  | _, _ => []

/-- Mapping lists whose items agree. -/
theorem map_eq_of_forall₂ {α β γ : Type} {f : β → γ} {g : α → γ} {xs : List α} {ys : List β}
    (h : List.Forall₂ (fun x y => f y = g x) xs ys) : ys.map f = xs.map g := by
  induction h with
  | nil => rfl
  | cons hfirst _ ih => rw [List.map_cons, List.map_cons, hfirst, ih]

/-- The entry of one endpoint is the other endpoint's view: the sender flag is the opposite one, and
the socket is renamed. A flag or a socket may be missing on both sides. -/
structure Mirrored (ρ : ℤ → ℤ) (data data' : PyDict) : Prop where
  socket : socketAt data' = (socketAt data).map ρ
  sender : flagAt data' "sender" = (flagAt data "sender").map not

/-- The entries of two lists are each other's views. -/
structure Mirrors (ρ : ℤ → ℤ) (entries entries' : List PyDict) : Prop where
  forth : ∀ data ∈ entries, ∃ data' ∈ entries', Mirrored ρ data data'
  back : ∀ data' ∈ entries', ∃ data ∈ entries, Mirrored ρ data data'

section Mirror

variable {ρ : ℤ → ℤ} {entries entries' : List PyDict}

theorem mem_recordOf {data : PyDict} {n : ℤ} {b : Bool} :
    (n, b) ∈ recordOf data ↔ socketAt data = some n ∧ flagAt data "sender" = some b := by
  unfold recordOf
  cases socketAt data with
  | none => simp
  | some m =>
    cases flagAt data "sender" with
    | none => simp
    | some c => simp [eq_comm]

/-- A socket has a sender flag on one side exactly when its namesake has the opposite one. -/
theorem Mirrors.mem_records (h : Mirrors ρ entries entries') (hρ : Function.Injective ρ) (n : ℤ)
    (b : Bool) : (ρ n, !b) ∈ entries'.flatMap recordOf ↔ (n, b) ∈ entries.flatMap recordOf := by
  simp only [List.mem_flatMap, mem_recordOf]
  constructor
  · rintro ⟨data', hdata', hsocket, hsender⟩
    obtain ⟨data, hdata, hmirror⟩ := h.back data' hdata'
    rw [hmirror.socket, Option.map_eq_some_iff] at hsocket
    rw [hmirror.sender, Option.map_eq_some_iff] at hsender
    obtain ⟨m, hm, hmn⟩ := hsocket
    obtain ⟨c, hc, hcb⟩ := hsender
    rw [hρ hmn] at hm
    rw [Bool.not_inj hcb] at hc
    exact ⟨data, hdata, hm, hc⟩
  · rintro ⟨data, hdata, hsocket, hsender⟩
    obtain ⟨data', hdata', hmirror⟩ := h.forth data hdata
    exact ⟨data', hdata', by rw [hmirror.socket, hsocket]; rfl, by rw [hmirror.sender, hsender]; rfl⟩

/-- The senders of a socket and of its namesake. -/
theorem Mirrors.sendersOf_eq (h : Mirrors ρ entries entries') (hρ : Function.Injective ρ)
    (socket : Option ℤ) :
    sendersOf (entries'.flatMap recordOf) (socket.map ρ) =
      ((sendersOf (entries.flatMap recordOf) socket).map not).reverse := by
  cases socket with
  | none => rfl
  | some n =>
    have htrue := h.mem_records hρ n true
    have hfalse := h.mem_records hρ n false
    rw [Bool.not_true] at htrue
    rw [Bool.not_false] at hfalse
    simp only [Option.map_some, sendersOf, List.filter_cons, List.filter_nil, htrue, hfalse]
    by_cases hf : (n, false) ∈ entries.flatMap recordOf <;>
      by_cases ht : (n, true) ∈ entries.flatMap recordOf <;> simp [hf, ht]

/-- The two ends of a stream get the same direction and opposite flags. -/
theorem attributed_mirrored {modes modes' : Modes} (hreverse : modes'.reverse = modes.reverse)
    (hbidirectional : modes'.bidirectional = modes.bidirectional) (flag : Option Bool)
    (senders : List Bool) :
    (attributed (some .server) modes' (flag.map not) (senders.map not).reverse).direction =
        (attributed (some .client) modes flag senders).direction ∧
      (attributed (some .server) modes' (flag.map not) (senders.map not).reverse).sender =
        ((attributed (some .client) modes flag senders).sender).map not := by
  have hprimary : modes'.primaryDirection = modes.primaryDirection := by
    rw [Modes.primaryDirection, hreverse, hbidirectional, Modes.primaryDirection]
  unfold attributed
  rw [hprimary, hbidirectional, List.length_reverse, List.length_map]
  by_cases hmany : 1 < senders.length
  · rw [if_pos hmany, if_pos hmany]
    exact ⟨rfl, rfl⟩
  · rw [if_neg hmany, if_neg hmany]
    have hhead : (flag.map not).or (senders.map not).reverse.head? = (flag.or senders.head?).map not := by
      match senders, hmany with
      | [], _ => cases flag <;> rfl
      | [b], _ => cases flag <;> rfl
      | _ :: _ :: _, hmany => exact absurd (by simp) hmany
    rw [hhead]
    cases flag.or senders.head? with
    | none => split_ifs <;> exact ⟨rfl, rfl⟩
    | some sender =>
      cases modes.bidirectional <;> cases modes.primaryDirection <;> cases sender <;>
        exact ⟨rfl, rfl⟩

theorem observerOf_not (b : Bool) : observerOf (!b) = (observerOf b).opposite := by
  cases b <;> rfl

/-! ## The streams of the two ends -/

/-- Two contexts of one run, as the two endpoints see it. -/
structure Context.Opposite (ctx ctx' : Context) : Prop where
  client : ctx.reportingRole = some .client
  server : ctx'.reportingRole = some .server
  reverse : ctx'.modes.reverse = ctx.modes.reverse
  bidirectional : ctx'.modes.bidirectional = ctx.modes.bidirectional

variable {ctx ctx' : Context}

/-- What the two ends attribute to one entry. -/
structure Provenance.Mirrored (ρ : ℤ → ℤ) (p p' : Provenance) : Prop where
  streamId : p'.streamId = p.streamId.map ρ
  direction : p'.direction = p.direction
  sender : p'.sender = p.sender.map not

theorem Mirrors.provenance (h : Mirrors ρ entries entries') (hρ : Function.Injective ρ)
    (hctx : ctx.Opposite ctx') {data data' : PyDict} (hdata : Mirrored ρ data data')
    {p p' : Provenance} (hp : p.Of ctx (entries.flatMap recordOf) data)
    (hp' : p'.Of ctx' (entries'.flatMap recordOf) data') : p.Mirrored ρ p' := by
  obtain ⟨hstream, flag, hflag, hsender, hdirection⟩ := hp
  obtain ⟨hstream', flag', hflag', hsender', hdirection'⟩ := hp'
  have hid : p'.streamId = p.streamId.map ρ := by
    rw [← socketAt_of_optionalInteger hstream', hdata.socket, socketAt_of_optionalInteger hstream]
  have hflags : flag' = flag.map not := by
    rw [← flagAt_of_optionalFlag hflag', hdata.sender, flagAt_of_optionalFlag hflag]
  rw [hctx.client] at hsender hdirection
  rw [hctx.server, hid, hflags, h.sendersOf_eq hρ] at hsender' hdirection'
  obtain ⟨hsame, hopposite⟩ := attributed_mirrored hctx.reverse hctx.bidirectional flag
    (sendersOf (entries.flatMap recordOf) p.streamId)
  exact ⟨hid, by rw [hdirection', hsame, hdirection], by rw [hsender', hopposite, hsender]⟩

/-- Lists with the same members up to a renaming have equally many. -/
theorem dedup_perm_map {α β : Type} [DecidableEq α] [DecidableEq β] {f : α → β}
    (hf : Function.Injective f) {xs : List α} {ys : List β}
    (h : ∀ y, y ∈ ys ↔ ∃ x ∈ xs, f x = y) : ys.dedup.Perm (xs.dedup.map f) := by
  refine (List.perm_ext_iff_of_nodup (List.nodup_dedup ys) ((List.nodup_dedup xs).map hf)).mpr ?_
  intro y
  rw [List.mem_dedup, List.mem_map, h y]
  exact exists_congr fun x => and_congr_left fun _ => List.mem_dedup.symm

theorem soleOf_congr {α : Type} [DecidableEq α] {xs ys : List α} (h : ∀ x, x ∈ ys ↔ x ∈ xs) :
    soleOf ys = soleOf xs := by
  have hperm : ys.dedup.Perm xs.dedup := by
    refine (List.perm_ext_iff_of_nodup (List.nodup_dedup ys) (List.nodup_dedup xs)).mpr fun x => ?_
    rw [List.mem_dedup, List.mem_dedup, h x]
  unfold soleOf
  match hys : ys.dedup, hxs : xs.dedup with
  | [], [] => rfl
  | [y], [x] =>
    rw [hys, hxs] at hperm
    exact congrArg some (List.singleton_perm_singleton.mp hperm)
  | _ :: _ :: _, _ :: _ :: _ => rfl
  | [], _ :: _ | _ :: _, [] | [_], _ :: _ :: _ | _ :: _ :: _, [_] =>
    rw [hys, hxs] at hperm
    exact absurd hperm.length_eq (by simp)

/-- The endpoints of a stream agree on its direction at the one end where they do at the other. -/
theorem streamIdentity_mirrored (hρ : Function.Injective ρ) {ps ps' : List Provenance}
    (hforth : ∀ p ∈ ps, ∃ p' ∈ ps', Provenance.Mirrored ρ p p')
    (hback : ∀ p' ∈ ps', ∃ p ∈ ps, Provenance.Mirrored ρ p p') :
    (streamIdentity ps').1 = (streamIdentity ps).1 := by
  have hsockets : (ps'.map Provenance.streamId).reduceOption.dedup.Perm
      ((ps.map Provenance.streamId).reduceOption.dedup.map ρ) := by
    refine dedup_perm_map hρ fun m => ?_
    simp only [List.reduceOption_mem_iff, List.mem_map]
    constructor
    · rintro ⟨p', hp', hm⟩
      obtain ⟨p, hp, hmirror⟩ := hback p' hp'
      rw [hmirror.streamId, Option.map_eq_some_iff] at hm
      obtain ⟨n, hn, hnm⟩ := hm
      exact ⟨n, ⟨p, hp, hn⟩, hnm⟩
    · rintro ⟨n, ⟨p, hp, hn⟩, hnm⟩
      obtain ⟨p', hp', hmirror⟩ := hforth p hp
      exact ⟨p', hp', by rw [hmirror.streamId, hn, Option.map_some, hnm]⟩
  have hdirections : soleOf (ps'.map Provenance.direction) = soleOf (ps.map Provenance.direction) := by
    refine soleOf_congr fun d => ?_
    simp only [List.mem_map]
    constructor
    · rintro ⟨p', hp', hd⟩
      obtain ⟨p, hp, hmirror⟩ := hback p' hp'
      exact ⟨p, hp, hmirror.direction.symm.trans hd⟩
    · rintro ⟨p, hp, hd⟩
      obtain ⟨p', hp', hmirror⟩ := hforth p hp
      exact ⟨p', hp', hmirror.direction.trans hd⟩
  unfold streamIdentity
  dsimp only
  rw [hdirections, hsockets.length_eq, List.length_map]

theorem Mirrors.interval (h : Mirrors ρ entries entries') (hρ : Function.Injective ρ)
    (hctx : ctx.Opposite ctx') {data data' : PyDict} (hdata : Mirrored ρ data data')
    {x x' : IntervalStats} (hx : x.Of ctx (entries.flatMap recordOf) data)
    (hx' : x'.Of ctx' (entries'.flatMap recordOf) data') :
    x'.direction = x.direction ∧ x'.observation = x.observation.map ObservationPoint.opposite := by
  obtain ⟨p, hp, -, hobservation, hdirection⟩ := hx
  obtain ⟨p', hp', -, hobservation', hdirection'⟩ := hx'
  have hmirror := h.provenance hρ hctx hdata hp hp'
  refine ⟨by rw [hdirection', hmirror.direction, hdirection], ?_⟩
  rw [hobservation', hmirror.sender, hobservation, Option.map_map, Option.map_map]
  exact congrArg (p.sender.map ·) (funext observerOf_not)

theorem Mirrors.stream (h : Mirrors ρ entries entries') (hρ : Function.Injective ρ)
    (hctx : ctx.Opposite ctx') {stream stream' : EndStream}
    (hstream : Mirrors ρ (dataOf stream) (dataOf stream')) {x x' : StreamStats}
    (hx : x.Of ctx (entries.flatMap recordOf) stream)
    (hx' : x'.Of ctx' (entries'.flatMap recordOf) stream') : x'.direction = x.direction := by
  obtain ⟨ps, hps, hdirection, -⟩ := hx
  obtain ⟨ps', hps', hdirection', -⟩ := hx'
  rw [hdirection, hdirection']
  refine streamIdentity_mirrored hρ ?_ ?_
  · intro p hp
    obtain ⟨endpoint, hmem, hof⟩ := exists_mem_of_forall₂ hps.flip hp
    obtain ⟨data', hdata', hmirror⟩ := hstream.forth _ (List.mem_map_of_mem hmem)
    obtain ⟨endpoint', hmem', rfl⟩ := List.mem_map.mp hdata'
    obtain ⟨p', hp', hof'⟩ := exists_mem_of_forall₂ hps' hmem'
    exact ⟨p', hp', h.provenance hρ hctx hmirror hof hof'⟩
  · intro p' hp'
    obtain ⟨endpoint', hmem', hof'⟩ := exists_mem_of_forall₂ hps'.flip hp'
    obtain ⟨data, hdata, hmirror⟩ := hstream.back _ (List.mem_map_of_mem hmem')
    obtain ⟨endpoint, hmem, rfl⟩ := List.mem_map.mp hdata
    obtain ⟨p, hp, hof⟩ := exists_mem_of_forall₂ hps hmem
    exact ⟨p, hp, h.provenance hρ hctx hmirror hof hof'⟩

/-! ## The two documents -/

/-- Two documents report on one run: the one as its client, the other as its server. Their explicit
flags agree, and where the bidirectional one is left out, so does what is inferred in its place. Every
entry with a sender flag is seen from both sides. -/
structure Opposite (ρ : ℤ → ℤ) (raw raw' : PyDict) : Prop where
  reverse : reverseFlag raw' = reverseFlag raw
  bidirectional : bidirectionalFlag raw' = bidirectionalFlag raw
  inferred : bidirectionalFlag raw = none → showsReverseFlow raw' = showsReverseFlow raw
  entries : Mirrors ρ (entriesOf raw) (entriesOf raw')

variable {raw raw' : PyDict} {given given' : Option ReportingRole} {r r' : Result}

end Mirror

end Iperf3Lib.Results
