import SecurityWallet.Proof.CamAccessor

/-!
# Counting the mappings of a credential

The server counts the mappings that it filters for one credential; the client goes through the list
of all of them once, with a counter for each credential. The counters are those of a tally in
natural numbers, cut to 32 bits.
-/

open Foundation SerializationInfo Effect

namespace Cam

/-- The number of stored mappings with the credential. -/
def CredentialAssetMappingStorage.uses (storage : CredentialAssetMappingStorage)
    (credentialId : CredentialId) : Nat :=
  storage.getAllMappings.countP fun mapping => mapping.credentialId = credentialId

/-- The credentials of the mappings that have one. -/
def credentials (mappings : List CredentialAssetMapping) : List CredentialId :=
  (mappings.map CredentialAssetMapping.credentialId).filter fun credentialId => credentialId ≠ ""

theorem credentials_cons_of_empty {mapping : CredentialAssetMapping}
    (hempty : mapping.credentialId = "") (mappings : List CredentialAssetMapping) :
    credentials (mapping :: mappings) = credentials mappings := by
  simp [credentials, hempty]

theorem credentials_cons_of_ne {mapping : CredentialAssetMapping}
    (hne : mapping.credentialId ≠ "") (mappings : List CredentialAssetMapping) :
    credentials (mapping :: mappings) = mapping.credentialId :: credentials mappings := by
  simp [credentials, hne]

theorem count_credentials (mappings : List CredentialAssetMapping) {credentialId : CredentialId}
    (hne : credentialId ≠ "") :
    (credentials mappings).count credentialId =
      mappings.countP fun mapping => mapping.credentialId = credentialId := by
  rw [credentials, List.count_filter (by simpa using hne), List.count, List.countP_map]
  rfl

theorem length_credentials (mappings : List CredentialAssetMapping) :
    (credentials mappings).length =
      mappings.countP fun mapping => mapping.credentialId ≠ "" := by
  rw [credentials, ← List.countP_eq_length_filter, List.countP_map]
  rfl

theorem ne_empty_of_mem_credentials {mappings : List CredentialAssetMapping}
    {credentialId : CredentialId} (hmem : credentialId ∈ credentials mappings) :
    credentialId ≠ "" := by
  simpa using (List.mem_filter.1 hmem).2

namespace Accessor

/-- The counters of the client are a tally whose numbers are cut to 32 bits. -/
theorem countCredentials_eq (mappings : List CredentialAssetMapping) :
    countCredentials mappings =
      StdMap.mapValues UInt32.ofNat (StdMap.tally (credentials mappings) ∅) := by
  have hempty : (∅ : StdMap CredentialId UInt32) = StdMap.mapValues UInt32.ofNat ∅ := by
    apply Std.ExtTreeMap.ext_getElem?
    intro credentialId
    simp
  rw [countCredentials, hempty]
  generalize (∅ : StdMap CredentialId Nat) = counts
  induction mappings generalizing counts with
  | nil => rfl
  | cons mapping mappings ih =>
      rw [List.foldl_cons]
      by_cases hcredential : mapping.credentialId = ""
      · rw [credentials_cons_of_empty hcredential, hcredential]
        exact ih counts
      · rw [credentials_cons_of_ne hcredential, StdMap.tally_cons, ← ih, StdMap.mapValues_insert,
          if_neg (by simpa using hcredential), StdMap.lookup_mapValues]
        cases counts[mapping.credentialId]? with
        | none => rfl
        | some count => simp [UInt32.ofNat_add]

/-- A credential that is used is counted; no other has a counter. -/
theorem lookup_countCredentials (mappings : List CredentialAssetMapping)
    (credentialId : CredentialId) :
    (countCredentials mappings)[credentialId]? =
      if credentialId ∈ credentials mappings then
        some (UInt32.ofNat ((credentials mappings).count credentialId))
      else none := by
  rw [countCredentials_eq, StdMap.lookup_mapValues, StdMap.lookup_tally]
  split <;> simp

section Small

variable {mappings : List CredentialAssetMapping} (hsize : mappings.length < 2 ^ 32)

include hsize

theorem toNat_count_credentials (credentialId : CredentialId) :
    (UInt32.ofNat ((credentials mappings).count credentialId)).toNat =
      (credentials mappings).count credentialId := by
  have hcount : (credentials mappings).count credentialId ≤ mappings.length := by
    refine List.count_le_length.trans ?_
    rw [length_credentials]
    exact List.countP_le_length
  exact UInt32.toNat_ofNat_of_lt' (hcount.trans_lt hsize)

/-- A missing counter stands for none. -/
theorem getD_countCredentials {credentialId : CredentialId} (hne : credentialId ≠ "") :
    ((countCredentials mappings)[credentialId]?.getD 0).toNat =
      mappings.countP fun mapping => mapping.credentialId = credentialId := by
  rw [lookup_countCredentials, ← count_credentials mappings hne]
  split
  · rw [Option.getD_some, toNat_count_credentials hsize]
  · next habsent =>
      rw [List.count_eq_zero_of_not_mem habsent]
      rfl

theorem countCredentials_ne {credentialId : CredentialId} {counter : UInt32}
    (hcounter : (countCredentials mappings)[credentialId]? = some counter) :
    counter ≠ 0 ∧ credentialId ≠ "" := by
  rw [lookup_countCredentials] at hcounter
  split at hcounter
  · next hmem =>
      obtain rfl := Option.some.inj hcounter
      refine ⟨?_, ne_empty_of_mem_credentials hmem⟩
      intro hzero
      have htoNat := toNat_count_credentials hsize credentialId
      have hpos := List.count_pos_iff.2 hmem
      rw [hzero, UInt32.toNat_zero] at htoNat
      omega
  · cases hcounter

theorem sum_countCredentials :
    ((countCredentials mappings).valueList.map UInt32.toNat).sum =
      mappings.countP fun mapping => mapping.credentialId ≠ "" := by
  have htoNat : ∀ count ∈ (StdMap.tally (credentials mappings) ∅).valueList,
      (UInt32.ofNat count).toNat = count := by
    intro count hmem
    obtain ⟨credentialId, hlookup⟩ := StdMap.mem_valueList.1 hmem
    rw [StdMap.lookup_tally] at hlookup
    split at hlookup
    · obtain rfl : (credentials mappings).count credentialId = count := by
        simpa using Option.some.inj hlookup
      exact toNat_count_credentials hsize credentialId
    · simp at hlookup
  rw [countCredentials_eq, StdMap.valueList_mapValues, List.map_map, Function.comp_def,
    List.map_congr_left htoNat, List.map_id', StdMap.sum_tally, length_credentials]

end Small

variable [Cxxtools] [LawfulCxxtools] [CxxtoolsTexts] [CxxtoolsClient] [LawfulCxxtoolsClient]

/--
Both counts of a credential and the list of its mappings agree with the store, and the counters of
all credentials count each mapping that has one.
-/
theorem counters_agree (client : Sender) (server : CredentialAssetMappingServer)
    (hsize : server.activeMapping.mappings.size < 2 ^ 32) :
    ∃ counters : StdMap CredentialId UInt32,
      (getAllCredentialCounter client).exec server = (.ok counters, server) ∧
      (∀ credentialId ≠ "", ∃ counter mappings,
        (countCredentialMappingsForCredential client credentialId).exec server =
          (.ok counter, server) ∧
        (getCredentialMappings client credentialId).exec server = (.ok mappings, server) ∧
        counter.toNat = server.activeMapping.uses credentialId ∧
        mappings.length = server.activeMapping.uses credentialId ∧
        (counters[credentialId]?.getD 0).toNat = server.activeMapping.uses credentialId) ∧
      (∀ credentialId counter, counters[credentialId]? = some counter →
        counter ≠ 0 ∧ credentialId ≠ "") ∧
      (counters.valueList.map UInt32.toNat).sum =
        server.activeMapping.getAllMappings.countP fun mapping => mapping.credentialId ≠ "" := by
  have hlength : server.activeMapping.getAllMappings.length < 2 ^ 32 := by
    rwa [CredentialAssetMappingStorage.getAllMappings, StdMap.valueList, List.length_map,
      Std.ExtTreeMap.length_toList]
  refine ⟨_, getAllCredentialCounter_exec client server, ?_,
    fun credentialId counter => countCredentials_ne hlength, sum_countCredentials hlength⟩
  intro credentialId hne
  have huses : (server.activeMapping.getCredentialMappings credentialId).length =
      server.activeMapping.uses credentialId :=
    List.countP_eq_length_filter.symm
  refine ⟨_, _, countCredentialMappingsForCredential_exec client server credentialId,
    getCredentialMappings_exec client server credentialId, ?_, huses,
    getD_countCredentials hlength hne⟩
  have hle : server.activeMapping.uses credentialId ≤
      server.activeMapping.getAllMappings.length :=
    List.countP_le_length
  rw [huses]
  exact UInt32.toNat_ofNat_of_lt' (hle.trans_lt hlength)

end Accessor

/-! ### A credential that is used twice -/

open scoped Secw.Reference

/-- A server with two mappings of one credential and one without any. -/
def serverOfThree : CredentialAssetMappingServer where
  activeMapping :=
    { mappings := StdMap.indexBy (fun mapping => mapping.triple.hash)
        [{ assetId := "a", serviceId := "s", protocol := "p", credentialId := "c" },
          { assetId := "b", serviceId := "s", protocol := "p", credentialId := "c" },
          { assetId := "b", serviceId := "t", protocol := "p" }] ∅ }

theorem counters_of_three :
    ∃ counters : StdMap CredentialId UInt32,
      (Accessor.getAllCredentialCounter "client").exec serverOfThree =
        (.ok counters, serverOfThree) ∧
      (counters["c"]?.getD 0).toNat = 2 ∧
      (counters.valueList.map UInt32.toNat).sum = 2 := by
  have huses : serverOfThree.activeMapping.uses "c" = 2 := by decide +kernel
  have hall : (serverOfThree.activeMapping.getAllMappings.countP fun mapping =>
      mapping.credentialId ≠ "") = 2 := by decide +kernel
  obtain ⟨counters, hexec, hcounts, -, hsum⟩ :=
    Accessor.counters_agree "client" serverOfThree (by decide +kernel)
  obtain ⟨counter, mappings, -, -, -, -, hcounter⟩ := hcounts "c" (by decide)
  exact ⟨counters, hexec, hcounter.trans huses, hsum.trans hall⟩

end Cam
