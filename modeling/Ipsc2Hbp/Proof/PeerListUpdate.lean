import Ipsc2Hbp.Library.KeyedList
import Ipsc2Hbp.Proof.PeerTable

namespace Ipsc2Hbp
open BigEndian KeyedList

/-- The entry that a record makes of the one with its ID. -/
def PeerEntry.listedAs (record : Bytes) : Option PeerEntry → PeerEntry
  | none =>
      { peerId := IpscPeer.recordId record, ip := ipv4Str (record.extract 4 8)
        port := UInt16.ofNat (bytesToNat (record.extract 8 10)), mode := record.extract 10 11 }
  | some entry =>
      { entry with
        ip := ipv4Str (record.extract 4 8), port := UInt16.ofNat (bytesToNat (record.extract 8 10))
        mode := record.extract 10 11, fromPeerList := true }

/-- The entry that records of one ID make of the one with it. -/
def PeerEntry.listedAlong (records : List Bytes) (found : Option PeerEntry) : Option PeerEntry :=
  records.foldl (fun found record => some (PeerEntry.listedAs record found)) found

/-- A datagram is taken for a peer list of the master, with the payload that its digest leaves. -/
structure PeerListReply (digests : Digests) (cfg : Config) (data : Bytes) (host : String)
    (peer : IpscPeer) (payload : Bytes) : Prop where
  checked : checkedPayload digests cfg data = some payload
  opcode : payload[0]? = some peerListReply
  foreign : safePeerId payload ≠ cfg.ipscPeerId
  master : peer.isMasterSource cfg (safePeerId payload) host peerListReply = true

namespace IpscPeer

/-- The length that a peer list advertises. -/
def advertised (payload : Bytes) : Nat := bytesToNat (payload.extract 5 7)

/-- A peer list is shorter than its header or than it advertises. -/
def CutShort (payload : Bytes) : Prop :=
  payload.length < 7 ∨ payload.length < 7 + advertised payload

/-- The record with a number. -/
def recordAt (payload : Bytes) (idx : Nat) : Bytes :=
  payload.extract (7 + 11 * idx) (7 + 11 * (idx + 1))

/-- A complete record within the advertised length names an ID of another peer. -/
structure Names (cfg : Config) (masterId : Nat) (payload : Bytes) (id idx : Nat) : Prop where
  within : 11 * (idx + 1) ≤ advertised payload
  named : recordId (recordAt payload idx) = id
  known : id ≠ 0
  foreign : id ≠ cfg.ipscPeerId
  peer : id ≠ masterId

/-- The table after a peer list that prunes it. -/
structure TakesOver (cfg : Config) (payload : Bytes) (before after : IpscPeer) : Prop where
  listed : ∀ id, (∃ entry ∈ after.peers, entry.peerId = id ∧ entry.fromPeerList = true) ↔
    ∃ idx, Names cfg after.masterId payload id idx
  last : ∀ entry ∈ after.peers, entry.fromPeerList = true →
    ∃ idx, Names cfg after.masterId payload entry.peerId idx ∧
      (∀ later, Names cfg after.masterId payload entry.peerId later → later ≤ idx) ∧
      entry.ip = ipv4Str ((recordAt payload idx).extract 4 8) ∧
      entry.port = UInt16.ofNat (bytesToNat ((recordAt payload idx).extract 8 10)) ∧
      entry.mode = (recordAt payload idx).extract 10 11
  kept : ∀ old ∈ before.peers, ∀ entry ∈ after.peers, entry.peerId = old.peerId →
    entry.connected = old.connected ∧ entry.outstanding = old.outstanding ∧
      entry.lastRx = old.lastRx
  accepted : ∀ old ∈ before.peers, old.fromPeerList = false →
    (¬∃ idx, Names cfg after.masterId payload old.peerId idx) → old ∈ after.peers

/-- A record enters under its ID and leaves the other entries. -/
theorem listPeer_entryOf (record : Bytes) (peer : IpscPeer) (id : Nat) :
    entryOf PeerEntry.peerId id (peer.listPeer record).peers =
      if id = recordId record then
        some (PeerEntry.listedAs record (entryOf PeerEntry.peerId id peer.peers))
      else entryOf PeerEntry.peerId id peer.peers := by
  have lookup : peer.getPeer (recordId record) =
      entryOf PeerEntry.peerId (recordId record) peer.peers := rfl
  unfold listPeer
  rw [lookup]
  cases found : entryOf PeerEntry.peerId (recordId record) peer.peers with
  | none =>
      dsimp only
      rw [entryOf_append found]
      by_cases own : id = recordId record
      · subst own
        rw [if_pos rfl, if_pos rfl, found]
        rfl
      · rw [if_neg own, if_neg own]
  | some existing =>
      dsimp only [updatePeer]
      rw [entryOf_update (by intro entry; rfl)]
      by_cases own : id = recordId record
      · subst own
        rw [if_pos rfl, if_pos rfl, found]
        rfl
      · rw [if_neg own, if_neg own]

/-- A record keeps the IDs distinct. -/
theorem listPeer_distinct (record : Bytes) {peer : IpscPeer}
    (distinct : Distinct PeerEntry.peerId peer.peers) :
    Distinct PeerEntry.peerId (peer.listPeer record).peers := by
  unfold listPeer
  cases found : peer.getPeer (recordId record) with
  | none => exact distinct.append found
  | some existing =>
      apply distinct.of_keys
      refine updatePeer_ids ?_ (recordId record) peer
      intro entry
      rfl

/-- Records keep the IDs distinct. -/
theorem listPeers_distinct (records : List Bytes) {peer : IpscPeer}
    (distinct : Distinct PeerEntry.peerId peer.peers) :
    Distinct PeerEntry.peerId
      (records.foldl (fun peer entry => peer.listPeer entry) peer).peers := by
  induction records generalizing peer with
  | nil => exact distinct
  | cons record rest ih => exact ih (listPeer_distinct record distinct)

/-- The entry of an ID after all records is what those with the ID make of it. -/
theorem listPeers_entryOf (records : List Bytes) (peer : IpscPeer) (id : Nat) :
    entryOf PeerEntry.peerId id
        (records.foldl (fun peer entry => peer.listPeer entry) peer).peers =
      PeerEntry.listedAlong (records.filter fun record => recordId record = id)
        (entryOf PeerEntry.peerId id peer.peers) := by
  induction records generalizing peer with
  | nil => rfl
  | cons record rest ih =>
      rw [List.foldl_cons, ih, listPeer_entryOf, List.filter_cons]
      by_cases own : id = recordId record
      · rw [if_pos own, if_pos (by simpa using own.symm)]
        rfl
      · have other : ¬(decide (recordId record = id) = true) := by
          simpa using fun same : recordId record = id => own same.symm
        rw [if_neg own, if_neg other]

/-- Records leave the connection of an entry and the time of its last packet. -/
theorem listedAs_kept (records : List Bytes) {old entry : PeerEntry}
    (last : PeerEntry.listedAlong records (some old) = some entry) :
    entry.connected = old.connected ∧ entry.outstanding = old.outstanding ∧
      entry.lastRx = old.lastRx := by
  induction records generalizing old with
  | nil =>
      cases last
      exact ⟨rfl, rfl, rfl⟩
  | cons record rest ih =>
      have later := @ih (PeerEntry.listedAs record (some old)) last
      exact later

/-- A peer list that is cut short leaves the table. -/
theorem onPeerListReply_cut (cfg : Config) {payload : Bytes} (host : String) (port : UInt16)
    (now : Time) (peer : IpscPeer) (cut : CutShort payload) :
    let touched := peer.touchMaster (safePeerId payload) host port now
    (touched.onPeerListReply cfg payload host port now).1 = touched := by
  intro touched
  unfold onPeerListReply
  by_cases short : payload.length < 7
  · rw [if_pos short]
  · have less : (payload.extract 7 (7 + bytesToNat (payload.extract 5 7))).length <
        bytesToNat (payload.extract 5 7) := by
      rw [CutShort, advertised] at cut
      simp only [List.extract_eq_take_drop, List.length_take, List.length_drop]
      simp only [List.extract_eq_take_drop] at cut
      omega
    rw [if_neg short, touchMaster_twice]
    exact congrArg Prod.fst (if_pos less)

/-- A whole peer list adds and changes entries by its records, then prunes. -/
theorem onPeerListReply_whole (cfg : Config) {payload : Bytes} (host : String) (port : UInt16)
    (now : Time) (peer : IpscPeer) (whole : ¬ CutShort payload) :
    let touched := peer.touchMaster (safePeerId payload) host port now
    let records := touched.listedRecords cfg (payload.extract 7 (7 + advertised payload))
    let listed := records.foldl (fun peer entry => peer.listPeer entry) touched
    (touched.onPeerListReply cfg payload host port now).1.peers =
      if cfg.ipscPeerListPrune then
        listed.peers.filter fun entry =>
          !(entry.fromPeerList && !(records.map recordId).contains entry.peerId)
      else listed.peers := by
  intro touched records listed
  obtain ⟨long, complete⟩ := not_or.mp whole
  have enough : ¬(payload.extract 7 (7 + bytesToNat (payload.extract 5 7))).length <
      bytesToNat (payload.extract 5 7) := by
    rw [advertised] at complete
    simp only [List.extract_eq_take_drop, List.length_take, List.length_drop] at complete ⊢
    omega
  unfold onPeerListReply
  rw [if_neg long, touchMaster_twice]
  dsimp only
  rw [if_neg enough]
  rfl

/-- No ID is twice in the table. -/
def DistinctIds (peer : IpscPeer) : Prop := Distinct PeerEntry.peerId peer.peers

/-- A peer list keeps the IDs distinct. -/
theorem onPeerListReply_distinct (cfg : Config) (payload : Bytes) (host : String) (port : UInt16)
    (now : Time) {peer : IpscPeer} (distinct : peer.DistinctIds) :
    ((peer.touchMaster (safePeerId payload) host port now).onPeerListReply cfg payload host port
      now).1.DistinctIds := by
  have before : (peer.touchMaster (safePeerId payload) host port now).DistinctIds := distinct
  by_cases cut : CutShort payload
  · rw [onPeerListReply_cut cfg host port now peer cut]
    exact before
  · rw [DistinctIds, onPeerListReply_whole cfg host port now peer cut]
    split
    · exact (listPeers_distinct _ before).filter _
    · exact listPeers_distinct _ before

/-- The master's packets keep the IDs distinct. -/
theorem dispatch_master_distinct (digests : Digests) (cfg : Config) (payload : Bytes)
    (opcode : UInt8) (host : String) (port : UInt16) (now : Time) {peer : IpscPeer}
    (distinct : peer.DistinctIds) :
    ((peer.touchMaster (safePeerId payload) host port now).dispatch digests cfg payload opcode host
      port now true none).1.DistinctIds := by
  by_cases listReply : opcode = peerListReply
  · subst listReply
    exact onPeerListReply_distinct cfg payload host port now distinct
  by_cases bye : (opcode = deRegReq || opcode = deRegReply) = true
  · simp only [Bool.or_eq_true, decide_eq_true_eq] at bye
    apply distinct.of_keys
    rcases bye with rfl | rfl <;>
      exact clearMasterRegistration_ids (peer.touchMaster (safePeerId payload) host port now)
  · have same :=
      (dispatch_master_peers digests cfg payload host port now peer listReply bye).2
    rw [DistinctIds, same]
    exact distinct

/-- A peer's packets keep the IDs distinct. -/
theorem payloadReceived_peer_distinct (digests : Digests) {cfg : Config} {payload : Bytes}
    {opcode : UInt8} {host : String} (port : UInt16) (now : Time) {peer : IpscPeer}
    (foreign : safePeerId payload ≠ cfg.ipscPeerId)
    (other : peer.isMasterSource cfg (safePeerId payload) host opcode = false)
    (distinct : peer.DistinctIds) :
    (peer.payloadReceived digests cfg payload opcode host port now).1.DistinctIds := by
  have touched (sender : PeerEntry) {found : IpscPeer} (before : found.DistinctIds) :
      ((found.touchPeer sender.peerId host port now).dispatch digests cfg payload opcode host port
        now false (some sender)).1.DistinctIds := by
    obtain ⟨change, moves, peers⟩ :=
      (dispatch_peer digests cfg payload opcode host port now sender found).2
    apply before.of_keys
    rw [peers, List.map_map]
    exact List.map_congr_left fun entry _ => moves.peerId entry
  rw [payloadReceived_peer digests port now foreign other]
  have looked := acceptOrGetPeer_lookup cfg (safePeerId payload) host port opcode now peer
  generalize peer.acceptOrGetPeer cfg (safePeerId payload) host port opcode now = found at looked
  cases looked with
  | unknown absent missing => exact distinct
  | listed sender inside id absent => exact touched sender distinct
  | joined sender id fresh joins =>
      apply touched
      apply Distinct.append distinct
      rw [id]
      exact joins.2.1

/-- A callback keeps the IDs distinct. -/
theorem step_distinct (digests : Digests) (cfg : Config) (peer : IpscPeer) (event : IpscEvent)
    (distinct : peer.DistinctIds) : (peer.step digests cfg event).1.DistinctIds := by
  cases event with
  | connectionMade => exact distinct
  | watchdog now =>
      simp only [step, watchdog]
      split
      · exact distinct.of_keys (clearMasterRegistration_ids peer)
      · exact distinct
  | maintenance clock =>
      simp only [step, maintenance]
      split
      · exact distinct
      · exact distinct.of_keys (maintained_ids digests cfg peer.transport clock peer.peers)
  | datagramReceived data addr now =>
      have received := datagramReceived_cases digests cfg data addr now peer
      change (peer.datagramReceived digests cfg data addr now).1.DistinctIds
      generalize peer.datagramReceived digests cfg data addr now = reached at received ⊢
      cases received with
      | dropped => exact distinct
      | @taken host port payload opcode checked first own =>
          cases isMaster : peer.isMasterSource cfg (safePeerId payload) host opcode with
          | true =>
              rw [payloadReceived_master digests port now own isMaster]
              exact dispatch_master_distinct digests cfg payload opcode host port now distinct
          | false => exact payloadReceived_peer_distinct digests port now own isMaster distinct

/-- The IDs in the table stay distinct along a run. -/
theorem run_distinct (digests : Digests) (cfg : Config) (events : List IpscEvent) :
    ((ipscPeer digests cfg).run (initial cfg) events).1.DistinctIds :=
  (ipscPeer digests cfg).run_invariant DistinctIds (step_distinct digests cfg) _ events
    List.nodup_nil

/-- The records that count for an ID are the numbered ones that name it. -/
theorem listedRecords_of_id {cfg : Config} {payload : Bytes} {peer : IpscPeer}
    (whole : ¬ CutShort payload) {id : Nat}
    (counts : id ≠ 0 ∧ id ≠ cfg.ipscPeerId ∧ id ≠ peer.masterId) :
    (peer.listedRecords cfg (payload.extract 7 (7 + advertised payload))).filter
        (fun record => recordId record = id) =
      ((List.range (advertised payload / 11)).filter fun idx =>
        recordId (recordAt payload idx) = id).map (recordAt payload) := by
  have length : (payload.extract 7 (7 + advertised payload)).length = advertised payload := by
    obtain ⟨long, complete⟩ := not_or.mp whole
    simp only [List.extract_eq_take_drop, List.length_take, List.length_drop]
    omega
  have same : ∀ idx ∈ List.range (advertised payload / 11),
      (payload.extract 7 (7 + advertised payload)).extract (11 * idx) (11 * idx + 11) =
        recordAt payload idx := by
    intro idx within
    have inside : 11 * idx + 11 ≤ advertised payload := by
      have := List.mem_range.mp within
      omega
    simp only [recordAt, List.extract_eq_take_drop, List.drop_take, List.take_take, List.drop_drop]
    congr 1
    omega
  have excluded : ∀ record, recordId record = id →
      (!([0, cfg.ipscPeerId, peer.masterId].contains (recordId record))) = true := by
    intro record named
    simpa [named] using counts
  rw [listedRecords, peerRecords, length, List.map_congr_left same, List.filter_filter,
    List.filter_map]
  congr 1
  apply List.filter_congr
  intro idx _
  by_cases named : recordId (recordAt payload idx) = id
  · have kept := excluded _ named
    simpa [named] using kept
  · simp [named]

/-- Either no record that counts names an ID, or there is a last one that does. -/
theorem listedRecords_last (cfg : Config) {payload : Bytes} (peer : IpscPeer)
    (whole : ¬ CutShort payload) (id : Nat) :
    let named := (peer.listedRecords cfg (payload.extract 7 (7 + advertised payload))).filter
      fun record => recordId record = id
    ((¬∃ idx, Names cfg peer.masterId payload id idx) ∧ named = []) ∨
      ∃ idx, Names cfg peer.masterId payload id idx ∧
        (∀ later, Names cfg peer.masterId payload id later → later ≤ idx) ∧
        ∃ front, named = front ++ [recordAt payload idx] := by
  intro named
  by_cases counts : id ≠ 0 ∧ id ≠ cfg.ipscPeerId ∧ id ≠ peer.masterId
  · have records := listedRecords_of_id whole counts
    have among : ∀ idx, Names cfg peer.masterId payload id idx ↔
        idx ∈ (List.range (advertised payload / 11)).filter fun idx =>
          recordId (recordAt payload idx) = id := by
      intro idx
      simp only [List.mem_filter, List.mem_range, decide_eq_true_eq]
      refine ⟨fun names => ⟨?_, names.named⟩, fun inside => ?_⟩
      · have := names.within
        omega
      · exact ⟨by omega, inside.2, counts.1, counts.2.1, counts.2.2⟩
    have ordered : ((List.range (advertised payload / 11)).filter fun idx =>
        recordId (recordAt payload idx) = id).Pairwise (· < ·) :=
      List.pairwise_lt_range.sublist List.filter_sublist
    generalize ((List.range (advertised payload / 11)).filter fun idx =>
      recordId (recordAt payload idx) = id) = numbers at records among ordered
    rcases List.eq_nil_or_concat numbers with rfl | ⟨front, last, rfl⟩
    · refine .inl ⟨?_, records⟩
      rintro ⟨idx, names⟩
      cases (among idx).mp names
    · refine .inr ⟨last, (among last).mpr (by simp), fun later names => ?_, ?_⟩
      · rw [List.concat_eq_append] at ordered among
        have before := (List.pairwise_append.mp ordered).2.2
        rcases List.mem_append.mp ((among later).mp names) with early | same
        · exact (before later early last (List.mem_singleton_self last)).le
        · exact (List.mem_singleton.mp same).le
      · refine ⟨front.map (recordAt payload), records.trans ?_⟩
        rw [List.concat_eq_append, List.map_append]
        rfl
  · refine .inl ⟨?_, ?_⟩
    · rintro ⟨idx, names⟩
      exact counts ⟨names.known, names.foreign, names.peer⟩
    · apply List.filter_eq_nil_iff.mpr
      intro record member same
      have listed := listedRecords_id member
      rw [of_decide_eq_true same] at listed
      exact counts listed

/-- The entry of an ID after a whole peer list that prunes: that of its last record if there is one,
else the former one if it is not from a list. -/
theorem onPeerListReply_entryOf {cfg : Config} {payload : Bytes} (host : String) (port : UInt16)
    (now : Time) {peer : IpscPeer} (whole : ¬ CutShort payload) (prunes : cfg.ipscPeerListPrune = true)
    (distinct : peer.DistinctIds) (id : Nat) :
    let touched := peer.touchMaster (safePeerId payload) host port now
    let after := (touched.onPeerListReply cfg payload host port now).1
    let former := entryOf PeerEntry.peerId id peer.peers
    ((¬∃ idx, Names cfg touched.masterId payload id idx) ∧
      entryOf PeerEntry.peerId id after.peers = former.filter fun entry => !entry.fromPeerList) ∨
    ∃ idx, Names cfg touched.masterId payload id idx ∧
      (∀ later, Names cfg touched.masterId payload id later → later ≤ idx) ∧
      ∃ records, entryOf PeerEntry.peerId id after.peers =
        some (PeerEntry.listedAs (recordAt payload idx) (PeerEntry.listedAlong records former)) := by
  intro touched after former
  have kept : Distinct PeerEntry.peerId touched.peers := distinct
  have pruned : after.peers = _ :=
    (onPeerListReply_whole cfg host port now peer whole).trans (if_pos prunes)
  have lasts := listedRecords_last cfg touched whole id
  generalize touched.listedRecords cfg (payload.extract 7 (7 + advertised payload)) = records
    at pruned lasts
  have listed := listPeers_entryOf records touched id
  have lookup : entryOf PeerEntry.peerId id after.peers =
      (PeerEntry.listedAlong (records.filter fun record => recordId record = id) former).filter
        fun entry => !(entry.fromPeerList && !(records.map recordId).contains entry.peerId) := by
    rw [pruned, (listPeers_distinct records kept).entryOf_filter, listed]
    rfl
  have seen : (records.map recordId).contains id = true ↔
      records.filter (fun record => recordId record = id) ≠ [] := by
    simp [List.filter_eq_nil_iff]
  rcases lasts with ⟨unnamed, none⟩ | ⟨idx, names, last, front, some⟩
  · refine .inl ⟨unnamed, ?_⟩
    have unseen : (records.map recordId).contains id = false :=
      Bool.eq_false_iff.mpr fun contained => seen.mp contained none
    rw [lookup, none]
    change former.filter _ = former.filter _
    cases found : former with
    | none => rfl
    | some entry =>
        have own : entry.peerId = id := key_of_entryOf found
        simp only [Option.filter, own, unseen, Bool.not_false, Bool.and_true]
  · refine .inr ⟨idx, names, last, front, ?_⟩
    have contained := seen.mpr (by rw [some]; simp)
    have taken : PeerEntry.listedAlong (front ++ [recordAt payload idx]) former =
        Option.some (PeerEntry.listedAs (recordAt payload idx)
          (PeerEntry.listedAlong front former)) := by
      rw [PeerEntry.listedAlong, List.foldl_append]
      rfl
    have own := key_of_entryOf
      (listed.trans ((congrArg (PeerEntry.listedAlong · former) some).trans taken))
    rw [lookup, some, taken, Option.filter, own, contained]
    simp

/-- A whole peer list takes over the table. -/
theorem onPeerListReply_takesOver {cfg : Config} {payload : Bytes} (host : String) (port : UInt16)
    (now : Time) {peer : IpscPeer} (whole : ¬ CutShort payload) (prunes : cfg.ipscPeerListPrune = true)
    (distinct : peer.DistinctIds) :
    TakesOver cfg payload peer ((peer.touchMaster (safePeerId payload) host port now).onPeerListReply
      cfg payload host port now).1 := by
  have master := (onPeerListReply_peers cfg payload host port now peer).1.masterId
  have entries := onPeerListReply_entryOf host port now whole prunes distinct
  have apart : Distinct PeerEntry.peerId _ :=
    onPeerListReply_distinct cfg payload host port now distinct
  dsimp only at master entries
  rw [← master] at entries
  generalize ((peer.touchMaster (safePeerId payload) host port now).onPeerListReply cfg payload host
    port now).1 = after at entries apart
  have names_of_listed : ∀ entry ∈ after.peers, entry.fromPeerList = true →
      ∃ idx, Names cfg after.masterId payload entry.peerId idx ∧
        (∀ later, Names cfg after.masterId payload entry.peerId later → later ≤ idx) ∧
        ∃ found, entry = PeerEntry.listedAs (recordAt payload idx) found := by
    intro entry member mark
    have there := apart.mem_iff.mp member
    rcases entries entry.peerId with ⟨_, former⟩ | ⟨idx, names, last, records, taken⟩
    · rw [there] at former
      have unmarked := (Option.filter_eq_some_iff.mp former.symm).2
      simp [mark] at unmarked
    · exact ⟨idx, names, last, _, Option.some.inj (there.symm.trans taken)⟩
  constructor
  · intro id
    constructor
    · rintro ⟨entry, member, rfl, mark⟩
      obtain ⟨idx, names, -⟩ := names_of_listed entry member mark
      exact ⟨idx, names⟩
    · rintro ⟨idx, names⟩
      rcases entries id with ⟨unnamed, -⟩ | ⟨last, -, -, records, taken⟩
      · exact absurd ⟨idx, names⟩ unnamed
      · refine ⟨_, List.mem_of_find?_eq_some taken, key_of_entryOf taken, ?_⟩
        cases PeerEntry.listedAlong records (entryOf PeerEntry.peerId id peer.peers) <;> rfl
  · intro entry member mark
    obtain ⟨idx, names, last, found, rfl⟩ := names_of_listed entry member mark
    refine ⟨idx, names, last, ?_⟩
    cases found <;> exact ⟨rfl, rfl, rfl⟩
  · intro old former entry member same
    have there := apart.mem_iff.mp member
    have before := distinct.mem_iff.mp former
    rw [same] at there
    rcases entries old.peerId with ⟨-, kept⟩ | ⟨idx, -, -, records, taken⟩
    · rw [there, before] at kept
      cases (Option.filter_eq_some_iff.mp kept.symm).1
      exact ⟨rfl, rfl, rfl⟩
    · rw [there, before] at taken
      apply listedAs_kept (records ++ [recordAt payload idx])
      rw [PeerEntry.listedAlong, List.foldl_append]
      exact taken.symm
  · intro old former mark unnamed
    have before := distinct.mem_iff.mp former
    rcases entries old.peerId with ⟨-, kept⟩ | ⟨idx, names, -⟩
    · rw [before] at kept
      apply apart.mem_iff.mpr
      rw [kept]
      simp [Option.filter, mark]
    · exact absurd ⟨idx, names⟩ unnamed

end IpscPeer

/-- In every reachable state a peer list of the master that is cut short leaves the table, and
another one, with pruning on, makes the listed entries exactly those of its records. -/
theorem peer_list_update (digests : Digests) (cfg : Config) (events : List IpscEvent) (data : Bytes)
    (host : String) (port : UInt16) (now : Time) {payload : Bytes}
    (accepted : PeerListReply digests cfg data host
      ((ipscPeer digests cfg).run (IpscPeer.initial cfg) events).1 payload) :
    let before := ((ipscPeer digests cfg).run (IpscPeer.initial cfg) events).1
    let after := (before.step digests cfg (.datagramReceived data (.inet host port) now)).1
    (IpscPeer.CutShort payload →
      after.peers = before.peers ∧ after.peerListSeen = before.peerListSeen) ∧
    (¬ IpscPeer.CutShort payload → cfg.ipscPeerListPrune = true →
      IpscPeer.TakesOver cfg payload before after) := by
  intro before after
  have distinct := IpscPeer.run_distinct digests cfg events
  have taken : after = ((before.touchMaster (safePeerId payload) host port now).onPeerListReply cfg
      payload host port now).1 := by
    simp only [after, IpscPeer.step, IpscPeer.datagramReceived, Addr.unpack, accepted.checked,
      accepted.opcode]
    rw [IpscPeer.payloadReceived_master digests port now accepted.foreign accepted.master]
    rfl
  rw [taken]
  refine ⟨fun cut => ?_, fun whole prunes => ?_⟩
  · rw [IpscPeer.onPeerListReply_cut cfg host port now before cut]
    exact ⟨rfl, rfl⟩
  · exact IpscPeer.onPeerListReply_takesOver host port now whole prunes distinct

/-- After the first list the master lists the ID 9 twice, itself, and 7 no more. -/
def relisting : Bytes :=
  [peerListReply, 0, 0, 0, 1, 0, 35, 0, 0, 0, 9, 10, 0, 0, 8, 195, 80, 0x6a,
    0, 0, 0, 1, 10, 0, 0, 1, 195, 80, 0x6a, 0, 0, 0, 9, 10, 0, 0, 9, 195, 81, 0x6a, 0, 0]

theorem peer_list_update_relisting :
    IpscPeer.TakesOver peerCfg relisting
      ((ipscPeer loginDigests peerCfg).run (IpscPeer.initial peerCfg) listingRun).1
      (((ipscPeer loginDigests peerCfg).run (IpscPeer.initial peerCfg) listingRun).1.step loginDigests
        peerCfg (.datagramReceived relisting (.inet "10.0.0.1" 50000) 3)).1 := by
  have accepted : PeerListReply loginDigests peerCfg relisting "10.0.0.1"
      ((ipscPeer loginDigests peerCfg).run (IpscPeer.initial peerCfg) listingRun).1 relisting := by
    constructor <;> decide +kernel
  refine (peer_list_update loginDigests peerCfg listingRun relisting "10.0.0.1" 50000 3 accepted).2
    ?_ rfl
  rw [IpscPeer.CutShort]
  decide

end Ipsc2Hbp
