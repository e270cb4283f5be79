import CheckpointFabric.Properties.NodeCapture
import CheckpointFabric.Serving

/-!
# Reading a captured payload back

A capture takes payloads of any size. The bound of a policy is on the restore: it is checked on
the stored bytes before they are decoded, and on the decoded ones after that. A payload that does
not compress is stored as more bytes than it has, so the two checks do not say the same.

## Main definitions

* `Lossless` — what is asked of the compression library
* `Fits` — both forms of a payload are within the bound

## Main results

* `ends_readComponentPayload` — an undamaged payload is read back iff it fits
* `captured_read_back` — the same of whatever a capture has taken
-/

set_option autoImplicit false

namespace CheckpointFabric.Staging

open Concurrency Replica

/-- Decoding gives back what was encoded, as far as the limit goes. -/
def Lossless (codecs : WriteCodecs) : Prop :=
  ∀ payload level stored limit, codecs.zstdEncode payload level = .ok stored →
    codecs.zstdDecode stored limit = .ok (payload.take limit)

/-- The bound on the payload of a component at restore. -/
def readLimit (policy : PolicySet) : ℕ := policy.maxComponentBytes.getD (2 ^ 30)

/-- Neither the payload nor what it is stored as exceeds the bound. -/
def Fits (codecs : WriteCodecs) (compression : CompressionSpec) (limit : ℕ) (payload : Bytes) :
    Prop :=
  payload.length ≤ limit ∧ (storedOf codecs compression payload).length ≤ limit

/-- What reading a recorded component comes to when its payload is undamaged. -/
structure ReadsBack (codecs : WriteCodecs) (compression : CompressionSpec) (limit : ℕ) (tree : Tree)
    (c : ComponentEntry) (payload : Bytes) : Prop where
  fits (base : String) : Fits codecs compression limit payload →
    Ends (Undamaged base tree) (fun result _ => result = .ok payload)
      (readComponentPayload codecs.toFileCodecs base c.storageRepresentation c.contentHash limit) ()
  exceeds (base : String) : ¬ Fits codecs compression limit payload →
    Ends (Undamaged base tree) (fun result _ => ∃ e, result = .error e)
      (readComponentPayload codecs.toFileCodecs base c.storageRepresentation c.contentHash limit) ()

section Decoding

-- The paths are known by `safeJoin_payloadPath`; they need not be computed.
attribute [local irreducible] safeJoin

variable {codecs : WriteCodecs} {compression : CompressionSpec} {payload stored : Bytes} {limit : ℕ}

theorem codecOfStrStrict_codecAsStr (codec : Codec) :
    codecOfStrStrict (codecAsStr codec) = .ok codec := by
  cases codec <;> rfl

/-- A payload within the bound is decoded. -/
theorem decompressBytes_of_le (hlossless : Lossless codecs) (hlimit : limit < 2 ^ 64)
    (h : compressBytes codecs compression payload = .ok stored) (hpayload : payload.length ≤ limit) :
    decompressBytes codecs.toFileCodecs compression.codec stored limit = .ok payload := by
  unfold compressBytes at h
  cases hcodec : compression.codec with
  | none =>
    rw [hcodec] at h
    obtain rfl := Except.ok.inj h
    exact if_neg (Nat.not_lt.mpr hpayload)
  | zstd =>
    rw [hcodec] at h
    cases hencode : codecs.zstdEncode payload compression.level with
    | error e => simp [hencode] at h
    | ok encoded =>
      obtain rfl : encoded = stored := by simpa [hencode] using h
      -- The decoder is given one byte more than the bound, unless there is no such number.
      have htake : payload.take (min (limit + 1) (2 ^ 64 - 1)) = payload :=
        List.take_of_length_le (by omega)
      rw [decompressBytes, hlossless _ _ _ _ hencode, htake]
      exact if_neg (Nat.not_lt.mpr hpayload)

/-- A longer one is refused, or cut short. -/
theorem length_ne_of_decompressBytes {out : Bytes} (hlossless : Lossless codecs)
    (h : compressBytes codecs compression payload = .ok stored) (hpayload : limit < payload.length)
    (hout : decompressBytes codecs.toFileCodecs compression.codec stored limit = .ok out) :
    out.length ≠ payload.length := by
  unfold compressBytes at h
  cases hcodec : compression.codec with
  | none =>
    rw [hcodec] at h hout
    obtain rfl := Except.ok.inj h
    rw [decompressBytes, if_pos hpayload] at hout
    cases hout
  | zstd =>
    rw [hcodec] at h hout
    cases hencode : codecs.zstdEncode payload compression.level with
    | error e => simp [hencode] at h
    | ok encoded =>
      obtain rfl : encoded = stored := by simpa [hencode] using h
      rw [decompressBytes, hlossless _ _ _ _ hencode] at hout
      dsimp only at hout
      split at hout
      · cases hout
      · rename_i hshort
        obtain rfl := Except.ok.inj hout
        omega

/-- What reading a component comes to when its file is undamaged. -/
theorem ends_readComponentPayload {tree : Tree} {componentId : String} (base : String)
    (hlossless : Lossless codecs) (hlimit : limit < 2 ^ 64)
    (hcompressed : compressBytes codecs compression payload =
      .ok (storedOf codecs compression payload))
    (hfile : tree (payloadPath componentId) = some (storedOf codecs compression payload)) :
    Ends (Undamaged base tree)
      (fun result _ => (Fits codecs compression limit payload → result = .ok payload) ∧
        (¬ Fits codecs compression limit payload → ∃ e, result = .error e))
      (readComponentPayload codecs.toFileCodecs base
        (representation codecs componentId payload (storedOf codecs compression payload)
          compression) (codecs.sha256Hex payload) limit) () := by
  unfold readComponentPayload
  refine ends_ofExcept_bind.mpr ⟨fun path hpath => ?_, fun e he => ?_⟩
  swap
  · cases (safeJoin_payloadPath base componentId).symm.trans he
  obtain rfl := Except.ok.inj ((safeJoin_payloadPath base componentId).symm.trans hpath)
  have hread {reply : FabricResult Bytes} {u : Unit}
      (h : Undamaged base tree (.read s!"{base}/{payloadPath componentId}") () reply u) :
      reply = .ok (storedOf codecs compression payload) := h _ _ rfl hfile
  -- The file holds what was stored, so its size is the only thing that can be refused.
  refine ends_call_bind (fun bytes _ hbytes => ?_) fun e _ he => by cases hread he
  obtain rfl := Except.ok.inj (hread hbytes)
  refine ends_ensure_bind.mpr ⟨fun hstored => ?_, fun hstored => ?_⟩
  swap
  · exact ⟨fun hfits => absurd hfits.2 hstored, fun _ => ⟨_, rfl⟩⟩
  refine ends_ofExcept_bind.mpr ⟨fun codec hcodec => ?_, fun e he => ?_⟩
  swap
  · cases (codecOfStrStrict_codecAsStr _).symm.trans he
  obtain rfl := Except.ok.inj ((codecOfStrStrict_codecAsStr _).symm.trans hcodec)
  refine ends_ofExcept_bind.mpr ⟨fun out hout => ?_, fun e he => ?_⟩
  · by_cases hpayload : payload.length ≤ limit
    · -- What was decoded is the payload, and passes both checks.
      have hdecoded := decompressBytes_of_le hlossless hlimit hcompressed hpayload
      obtain rfl := Except.ok.inj (hdecoded.symm.trans hout)
      refine ends_ensure_bind.mpr ⟨fun _ => ?_, fun hsize => absurd rfl hsize⟩
      refine ends_ensure_bind.mpr ⟨fun _ => ?_, fun hhash => absurd rfl hhash⟩
      exact ⟨fun _ => rfl, fun hfits => absurd ⟨hpayload, hstored⟩ hfits⟩
    -- A payload beyond the limit is cut off while it is decoded, and the size check notices.
    · have hshort := length_ne_of_decompressBytes hlossless hcompressed
        (Nat.lt_of_not_le hpayload) hout
      refine ends_ensure_bind.mpr ⟨fun hsize => absurd hsize hshort, fun _ => ?_⟩
      exact ⟨fun hfits => absurd hfits.1 hpayload, fun _ => ⟨_, rfl⟩⟩
  · refine ⟨fun hfits => ?_, fun _ => ⟨e, rfl⟩⟩
    have hdecoded := decompressBytes_of_le hlossless hlimit hcompressed hfits.1
    cases hdecoded.symm.trans he

/-- The record of a captured payload serves to read it back. -/
theorem readsBack_of_holds {spec : Provider → ProviderSpec} {x : Provider × Bytes} {tree : Tree}
    (hlossless : Lossless codecs) (hlimit : limit < 2 ^ 64)
    (hcompressed : compressBytes codecs compression x.2 = .ok (storedOf codecs compression x.2))
    (hholds : Holds codecs tree (spec x.1).componentId (storedOf codecs compression x.2)
      (codecs.sha256Hex x.2)) :
    ReadsBack codecs compression limit tree (entryOf codecs spec compression x) x.2 := by
  have hread := fun base =>
    ends_readComponentPayload base hlossless hlimit hcompressed hholds.payload
  exact ⟨fun base hfits => (hread base).weaken fun _ _ h => h.1 hfits,
    fun base hfits => (hread base).weaken fun _ _ h => h.2 hfits⟩

theorem readLimit_lt {policy : PolicySet} (h : ∀ limit ∈ policy.maxComponentBytes, limit < 2 ^ 64) :
    readLimit policy < 2 ^ 64 := by
  unfold readLimit
  cases hmax : policy.maxComponentBytes with
  | none => exact Nat.pow_lt_pow_right (by decide) (by decide)
  | some limit => exact h limit hmax

end Decoding

/-- Whatever a capture under a policy has taken, a replica that is as the capture wrote it gives the
payload back under the bound of the policy if the payload and its stored form are within the bound,
and an error if they are not. -/
theorem captured_read_back {codecs : WriteCodecs} (hlossless : Lossless codecs) {policy : PolicySet}
    (hlimit : ∀ limit ∈ policy.maxComponentBytes, limit < 2 ^ 64) (spec : Provider → ProviderSpec)
    (node : NodeState) (req : NodeCaptureRequest) (s : Site) :
    Yields (Step spec) (fun a s' => a.ok = true → ∃ taken, Took codecs spec req s a s' taken ∧
      ∀ x ∈ taken, ∀ tree, Holds codecs tree (spec x.1).componentId
          (storedOf codecs req.compression x.2) (codecs.sha256Hex x.2) →
        ReadsBack codecs req.compression (readLimit policy) tree
          (entryOf codecs spec req.compression x) x.2)
      (doCapture codecs spec node req) s := by
  refine yields_doCapture.weaken fun a s' htook hok => ?_
  obtain ⟨taken, htook⟩ := htook hok
  obtain ⟨_, _, _, hwritten⟩ := htook.written
  refine ⟨taken, htook, fun x hx tree hholds => ?_⟩
  exact readsBack_of_holds hlossless (readLimit_lt hlimit) (hwritten.compressed x hx) hholds

/-! ### A bound of one byte

The payload of five bytes is captured all the same. It is compressed to fourteen bytes. -/

namespace Demo

/-- What was compressed is decoded. -/
theorem library_lossless : Lossless library := by
  intro payload level stored limit hencode
  by_cases hknown : level = 3 ∧ payload ∈ payloads
  · have hstored : frame payload = stored := by simpa [library, hknown] using hencode
    have hfound : ∀ payload ∈ payloads, (payloads.find? fun payload' =>
        frame payload' == frame payload) = some payload := by decide
    simp [library, ← hstored, hfound payload hknown.2]
  · simp [library, hknown] at hencode

def tight : PolicySet := { maxComponentBytes := some 1 }

def greeting : List (String × Bytes) := [("app", utf8 "hello")]

/-- A capture as the default policy compresses it. -/
def compressed : NodeCaptureRequest := { capture ["app"] with compression := ⟨.zstd, 3, "1"⟩ }

/-- The capture of the greeting, and the site that it leaves. -/
def greeted : FabricResult NodeCaptureResult × Site :=
  (doCapture library (providers greeting).spec Replica.Demo.node compressed).eval
    (providers greeting).answer .fresh

end Demo

/-- The record of the greeting. -/
def Demo.recorded : ComponentEntry :=
  entryOf Demo.library (Demo.providers Demo.greeting).spec Demo.compressed.compression
    (0, utf8 "hello")

theorem Demo.runs_greeted : ∃ a s' tree,
    Runs (Step (Demo.providers Demo.greeting).spec) (doCapture Demo.library
      (Demo.providers Demo.greeting).spec Replica.Demo.node Demo.compressed) .fresh (.ok a) s' ∧
    a.ok = true ∧ s'.captured = [(0, utf8 "hello")] ∧ s'.staging = some tree ∧
    Holds Demo.library tree "app" (Demo.frame (utf8 "hello"))
      (Demo.library.sha256Hex (utf8 "hello")) := by
  have hruns := runs_eval (Demo.providers Demo.greeting).step_answer
    (doCapture Demo.library (Demo.providers Demo.greeting).spec Replica.Demo.node
      Demo.compressed) .fresh
  have hok : Demo.greeted.1.toOption.map (·.ok) = some true := by decide +kernel
  have hcaptured : Demo.greeted.2.captured = [(0, utf8 "hello")] := by decide +kernel
  have hfiles : (Demo.greeted.2.staging.map fun tree => (componentFiles "app").map tree) =
      some [some (Demo.frame (utf8 "hello")),
        some (utf8 (Demo.library.sha256Hex (Demo.frame (utf8 "hello")) ++ "\n")),
        some (utf8 (crcHex (Demo.library.crc32c (Demo.frame (utf8 "hello"))) ++ "\n")),
        some (utf8 (Demo.library.sha256Hex (utf8 "hello") ++ "\n"))] := by
    decide +kernel
  change Runs _ _ _ Demo.greeted.1 Demo.greeted.2 at hruns
  generalize Demo.greeted = outcome at hruns hok hcaptured hfiles
  obtain ⟨result, s'⟩ := outcome
  obtain ⟨a, hresult, ha⟩ := Option.map_eq_some_iff.mp hok
  obtain ⟨tree, htree, hstored⟩ := Option.map_eq_some_iff.mp hfiles
  cases result with
  | error e => cases hresult
  | ok a' =>
    obtain rfl := Option.some.inj hresult
    refine ⟨a', s', tree, hruns, ha, hcaptured, htree, ?_⟩
    simp only [componentFiles, List.map_cons, List.map_nil, List.cons.injEq, and_true] at hstored
    obtain ⟨hpayload, hsha256, hcrc32c, hcontent⟩ := hstored
    exact ⟨hpayload, hsha256, hcrc32c, hcontent⟩

/-- Without a bound in the policy the greeting is captured and read back. -/
theorem greeting_read_back : ∃ a s' tree,
    Runs (Step (Demo.providers Demo.greeting).spec) (doCapture Demo.library
      (Demo.providers Demo.greeting).spec Replica.Demo.node Demo.compressed) .fresh (.ok a) s' ∧
    a.ok = true ∧ s'.captured = [(0, utf8 "hello")] ∧ s'.staging = some tree ∧
    tree "components/app" = some (Demo.frame (utf8 "hello")) ∧
    Fits Demo.library Demo.compressed.compression (readLimit {}) (utf8 "hello") ∧
    ReadsBack Demo.library Demo.compressed.compression (readLimit {}) tree Demo.recorded
      (utf8 "hello") := by
  obtain ⟨a, s', tree, hruns, hok, hcaptured, htree, hholds⟩ := Demo.runs_greeted
  obtain ⟨taken, htook, hreads⟩ := yields_iff.mp (captured_read_back Demo.library_lossless
    (show ∀ limit ∈ ({} : PolicySet).maxComponentBytes, limit < 2 ^ 64 by simp) _ _ _ _) a s' hruns hok
  have htaken : taken = [(0, utf8 "hello")] := by
    simpa [hcaptured, Site.fresh] using htook.captured.symm
  subst htaken
  have hstored : storedOf Demo.library Demo.compressed.compression (utf8 "hello") =
      Demo.frame (utf8 "hello") := by decide +kernel
  refine ⟨a, s', tree, hruns, hok, hcaptured, htree, hholds.payload, by unfold Fits; decide +kernel,
    hreads _ (.head _) tree ?_⟩
  exact hstored ▸ hholds

/-- Under a bound of one byte the greeting is captured as well, and not read back. -/
theorem greeting_refused : ∃ a s' tree,
    Runs (Step (Demo.providers Demo.greeting).spec) (doCapture Demo.library
      (Demo.providers Demo.greeting).spec Replica.Demo.node Demo.compressed) .fresh (.ok a) s' ∧
    a.ok = true ∧ s'.captured = [(0, utf8 "hello")] ∧ s'.staging = some tree ∧
    Holds Demo.library tree "app" (Demo.frame (utf8 "hello"))
      (Demo.library.sha256Hex (utf8 "hello")) ∧
    Runs (Undamaged "/data/checkpoints/2" tree) (readComponentPayload Demo.library.toFileCodecs
        "/data/checkpoints/2" Demo.recorded.storageRepresentation Demo.recorded.contentHash
        (readLimit Demo.tight)) ()
      (.error (.integrityFailure "component payload exceeds policy size bound")) () := by
  obtain ⟨a, s', tree, hruns, hok, hcaptured, htree, hholds⟩ := Demo.runs_greeted
  refine ⟨a, s', tree, hruns, hok, hcaptured, htree, hholds, ?_⟩
  have hread : Undamaged "/data/checkpoints/2" tree
      (.read "/data/checkpoints/2/components/app") () (.ok (Demo.frame (utf8 "hello"))) () := by
    intro rel bytes hpath hfile
    have hrel : payloadPath "app" = rel :=
      (String.append_right_inj "/data/checkpoints/2/").mp hpath
    obtain rfl : Demo.frame (utf8 "hello") = bytes :=
      Option.some.inj (hholds.payload.symm.trans (hrel ▸ hfile))
    rfl
  exact .perform hread .done

end CheckpointFabric.Staging
