/-
# The profiles of an artifact

`ArtifactProfileMapper.map` turns the profiles of an artifact into transport profiles. It
reads them in the order of their keys and makes each a name out of its key; what it cannot
use it skips, with a message.
-/

import Mathlib.Data.List.DropRight

namespace VpnControl.Profiles

/-! ## Names -/

/-- The functions on texts that names are made with, and what they promise. -/
structure TextLibrary where
  strip : String → String
  lower : String → String
  /-- `sha1(text.encode("utf-8")).hexdigest()`. -/
  hexdigest : String → String
  lower_not_upper : ∀ text, ∀ c ∈ (lower text).toList, c.isUpper = false
  hexdigest_hex : ∀ text, ∀ c ∈ (hexdigest text).toList, c ∈ "0123456789abcdef".toList

/-- The characters `a-z`, `0-9`, `_` and `-`. -/
abbrev IsNameChar (c : Char) : Prop := c.isLower ∨ c.isDigit ∨ c = '_' ∨ c = '-'

/-- `re.sub` with one hyphen for each run of matching characters. `inRun` says that the last
character belonged to one. -/
def subRuns (matching : Char → Bool) : (inRun : Bool) → List Char → List Char
  | _, [] => []
  | inRun, c :: rest =>
    if matching c then (if inRun then [] else ['-']) ++ subRuns matching true rest
    else c :: subRuns matching false rest

/-- `normalize_name` with the `max_len` of its callers, 100. A single hyphen may count as a
run for `-{2,}`, since it is replaced by itself. -/
def normalizeName (lib : TextLibrary) (key : String) : String :=
  let word := fun c : Char => c.isAlphanum || c == '_' || c == '-'
  let hyphened := subRuns (!word ·) false (lib.lower (lib.strip key)).toList
  let single := subRuns (· == '-') false hyphened
  let stripped := (single.dropWhile ("-_".toList.contains ·)).rdropWhile ("-_".toList.contains ·)
  let normalized := if stripped = [] then "bootstrap".toList else stripped
  if normalized.length ≤ 100 then String.ofList normalized
  else
    let digest := (lib.hexdigest (String.ofList normalized)).toList.take 8
    String.ofList (normalized.take 91 ++ '-' :: digest)

theorem mem_subRuns (h : c ∈ subRuns matching inRun text) :
    c = '-' ∨ c ∈ text ∧ matching c = false := by
  induction text generalizing inRun with
  | nil => cases h
  | cons first rest ih =>
    unfold subRuns at h
    split at h
    · rcases List.mem_append.mp h with hnew | hrest
      · exact .inl (by cases inRun <;> simp_all)
      · exact (ih hrest).imp_right (And.imp_left (List.mem_cons_of_mem _))
    · rename_i hkept
      rcases List.mem_cons.mp h with rfl | hrest
      · exact .inr ⟨by simp, by simpa using hkept⟩
      · exact (ih hrest).imp_right (And.imp_left (List.mem_cons_of_mem _))

structure IsName (name : String) : Prop where
  nonempty : name ≠ ""
  length : name.length ≤ 100
  chars : ∀ c ∈ name.toList, IsNameChar c

theorem isName_normalizeName (lib : TextLibrary) (key : String) :
    IsName (normalizeName lib key) := by
  unfold normalizeName
  extract_lets word hyphened single stripped normalized digest
  have hhyphened : ∀ c ∈ hyphened, IsNameChar c := by
    intro c hc
    rcases mem_subRuns hc with rfl | ⟨hmem, hword⟩
    · decide
    · have hupper := lib.lower_not_upper _ c hmem
      have hkept : (!(c.isUpper || c.isLower || c.isDigit || c == '_' || c == '-')) = false := hword
      grind
  have hstripped : ∀ c ∈ stripped, IsNameChar c := by
    intro c hc
    have hsingle : c ∈ single :=
      (List.dropWhile_sublist _).subset ((List.rdropWhile_prefix _ _).subset hc)
    rcases mem_subRuns hsingle with rfl | ⟨hmem, -⟩
    · decide
    · exact hhyphened c hmem
  have hnormalized : normalized ≠ [] ∧ ∀ c ∈ normalized, IsNameChar c := by
    dsimp only [normalized]
    split
    · simp [IsNameChar]
    · exact ⟨‹_›, hstripped⟩
  split
  · exact ⟨by simpa using hnormalized.1, by simpa, by simpa using hnormalized.2⟩
  · refine ⟨by simp, ?_, fun c hc => ?_⟩
    · have hdigest : digest.length ≤ 8 := List.length_take_le _ _
      rw [String.length_ofList, List.length_append, List.length_take, List.length_cons]
      omega
    · simp only [String.toList_ofList, List.mem_append, List.mem_cons] at hc
      rcases hc with hhead | rfl | hhex
      · exact hnormalized.2 c (List.mem_of_mem_take hhead)
      · decide
      · have hdigits : ∀ c ∈ "0123456789abcdef".toList, IsNameChar c := by simp [IsNameChar]
        exact hdigits c (lib.hexdigest_hex _ c (List.mem_of_mem_take hhex))

/-! ## Mapping -/

/-- What the mapper reads of a profile. -/
inductive ProfileIn
  | realityTcp (flow : Option String) (publicKey shortId sni fingerprint : String)
  | wsTls
  | xhttp

/-- A value of the artifact. For an object, the answer of `validate_python`. -/
inductive RawProfile
  | other
  | object (validated : Except String ProfileIn)

structure ArtifactProfile where
  artifactKey : String
  name : String
  protocol : String := "vless"
  network : String
  security : String := "tls"
  flow : Option String := none
  realityPublicKey : Option String := none
  realityShortId : Option String := none
  realityServerName : Option String := none
  tlsFingerprint : String := "chrome"
  grpcServiceName : Option String := none
  port : ℤ

structure ArtifactProfileMapper where
  includeRealityTcp : Bool := true
  includeWsTls : Bool := false
  includeXhttp : Bool := true
  defaultRealityPort : ℤ := 443
  defaultWsPort : ℤ := 443
  defaultXhttpPort : ℤ := 443
  profilePortOverrides : String → Option ℤ := fun _ => none

structure ArtifactProfileMapResult where
  desiredProfiles : List ArtifactProfile := []
  skippedProfiles : List String := []
  profilesTotal : ℕ := 0

def ArtifactProfileMapResult.skip (result : ArtifactProfileMapResult) (message : String) :
    ArtifactProfileMapResult :=
  { result with skippedProfiles := result.skippedProfiles ++ [message] }

/-- The `ValidationError` of an `ArtifactProfile`. Only the port can be out of bounds: the other
fields have the bounds they had in the profile. -/
structure PortError where
  port : ℤ

def ProfileIn.artifact (artifactKey name : String) (port : ℤ) : ProfileIn → ArtifactProfile
  | .realityTcp flow publicKey shortId sni tlsFingerprint =>
    { artifactKey, name, flow, tlsFingerprint, port
      network := "tcp"
      security := "reality"
      realityPublicKey := publicKey
      realityShortId := shortId
      realityServerName := sni }
  | .wsTls => { artifactKey, name, port, network := "ws" }
  | .xhttp => { artifactKey, name, port, network := "xhttp" }

theorem name_artifact (profile : ProfileIn) : (profile.artifact key name port).name = name := by
  cases profile <;> rfl

namespace ArtifactProfileMapper

variable (mapper : ArtifactProfileMapper) (lib : TextLibrary)

/-- The switch for a type of profile, its name and the default port. -/
def policy : ProfileIn → Bool × String × ℤ
  | .realityTcp .. => (mapper.includeRealityTcp, "include_reality_tcp", mapper.defaultRealityPort)
  | .wsTls => (mapper.includeWsTls, "include_ws_tls", mapper.defaultWsPort)
  | .xhttp => (mapper.includeXhttp, "include_xhttp", mapper.defaultXhttpPort)

/-- A turn of the loop of `map`. The used names are those of the desired profiles. -/
def mapItem (result : ArtifactProfileMapResult) (item : String × RawProfile) :
    Except PortError ArtifactProfileMapResult :=
  let key := lib.strip item.1
  if key = "" then .ok (result.skip "<empty-key>: skipped (empty key)")
  else match item.2 with
    | .other => .ok (result.skip s!"{key}: skipped (profile value must be an object)")
    | .object validated =>
      let name := normalizeName lib key
      if name ∈ result.desiredProfiles.map ArtifactProfile.name then
        .ok (result.skip s!"{key}: skipped (normalized transport name collision: {name})")
      else match validated with
        | .error error => .ok (result.skip s!"{key}: skipped (invalid profile payload: {error})")
        | .ok profile =>
          let (included, flag, defaultPort) := mapper.policy profile
          if included then
            let port := (mapper.profilePortOverrides key).getD defaultPort
            if 1 ≤ port ∧ port ≤ 65535 then
              .ok { result with
                desiredProfiles := result.desiredProfiles ++ [profile.artifact key name port] }
            else .error ⟨port⟩
          else .ok (result.skip s!"{key}: skipped by {flag}=false")

/-- `ArtifactProfileMapper.map`. -/
def map (payload : List (String × RawProfile)) : Except PortError ArtifactProfileMapResult := do
  let items := payload.mergeSort fun a b => decide (a.1 ≤ b.1)
  let result ← items.foldlM (mapper.mapItem lib) {}
  pure { result with profilesTotal := payload.length }

/-- The ports are such as `ArtifactRoutesBootstrapIn` accepts. -/
def ValidPorts : Prop :=
  ∀ key profile, let port := (mapper.profilePortOverrides key).getD (mapper.policy profile).2.2
    1 ≤ port ∧ port ≤ 65535

/-- The items are accounted for: each is desired or skipped, the desired profiles have names of
their own, and they are made of profiles whose types are included. -/
structure Maps (items : List (String × RawProfile)) (result : ArtifactProfileMapResult) :
    Prop where
  total : result.desiredProfiles.length + result.skippedProfiles.length = items.length
  distinct : (result.desiredProfiles.map ArtifactProfile.name).Nodup
  names : ∀ desired ∈ result.desiredProfiles, IsName desired.name
  included : ∀ desired ∈ result.desiredProfiles, ∃ key profile port,
    (key, .object (.ok profile)) ∈ items ∧ (mapper.policy profile).1 = true ∧
      desired = profile.artifact (lib.strip key) desired.name port

variable {mapper lib} {items : List (String × RawProfile)} {result : ArtifactProfileMapResult}

theorem Maps.skip (h : mapper.Maps lib items result) (item : String × RawProfile)
    (message : String) : mapper.Maps lib (items ++ [item]) (result.skip message) where
  total := by simp [ArtifactProfileMapResult.skip, ← h.total, Nat.add_assoc]
  distinct := h.distinct
  names := h.names
  included desired hdesired := by
    obtain ⟨key, profile, port, hmem, hrest⟩ := h.included desired hdesired
    exact ⟨key, profile, port, List.mem_append_left _ hmem, hrest⟩

theorem Maps.add (h : mapper.Maps lib items result) {profile : ProfileIn}
    (hunused : name ∉ result.desiredProfiles.map ArtifactProfile.name)
    (hincluded : (mapper.policy profile).1 = true) (hname : IsName name) :
    mapper.Maps lib (items ++ [(key, .object (.ok profile))]) { result with desiredProfiles :=
      result.desiredProfiles ++ [profile.artifact (lib.strip key) name port] } where
  total := by
    rw [List.length_append, List.length_append, ← h.total]
    exact Nat.add_right_comm ..
  distinct := by
    rw [List.map_append, List.map_singleton, name_artifact]
    exact List.nodup_append.mpr ⟨h.distinct, List.pairwise_singleton .., by simpa using hunused⟩
  names desired hdesired := by
    rcases List.mem_append.mp hdesired with hold | hnew
    · exact h.names desired hold
    · rwa [List.mem_singleton.mp hnew, name_artifact]
  included desired hdesired := by
    rcases List.mem_append.mp hdesired with hold | hnew
    · obtain ⟨key, profile, port, hmem, hrest⟩ := h.included desired hold
      exact ⟨key, profile, port, List.mem_append_left _ hmem, hrest⟩
    · refine ⟨key, profile, port, by simp, hincluded, ?_⟩
      rw [List.mem_singleton.mp hnew, name_artifact]

section

variable (hports : mapper.ValidPorts)

include hports

/-- One turn takes the item into account. -/
theorem Maps.mapItem (h : mapper.Maps lib items result) (item : String × RawProfile) :
    ∃ next, mapper.mapItem lib result item = .ok next ∧ mapper.Maps lib (items ++ [item]) next := by
  obtain ⟨rawKey, raw⟩ := item
  unfold ArtifactProfileMapper.mapItem
  extract_lets key name
  split
  · exact ⟨_, rfl, h.skip _ _⟩
  cases raw with
  | other => exact ⟨_, rfl, h.skip _ _⟩
  | object validated =>
    dsimp only
    split
    · exact ⟨_, rfl, h.skip _ _⟩
    rename_i hunused
    cases validated with
    | error => exact ⟨_, rfl, h.skip _ _⟩
    | ok profile =>
      dsimp only
      split
      · rename_i hincluded
        rw [if_pos (hports key profile)]
        exact ⟨_, rfl, h.add hunused hincluded (isName_normalizeName lib key)⟩
      · exact ⟨_, rfl, h.skip _ _⟩

theorem Maps.foldlM (h : mapper.Maps lib items result) (rest : List (String × RawProfile)) :
    ∃ last, rest.foldlM (mapper.mapItem lib) result = .ok last ∧
      mapper.Maps lib (items ++ rest) last := by
  induction rest generalizing items result with
  | nil => exact ⟨result, rfl, by rwa [List.append_nil]⟩
  | cons item rest ih =>
    obtain ⟨next, hnext, hmaps⟩ := h.mapItem hports item
    obtain ⟨last, hlast, hall⟩ := ih hmaps
    refine ⟨last, ?_, by simpa using hall⟩
    rw [List.foldlM_cons, hnext]
    exact hlast

end

/-- Nothing is stripped, capital letters are left out, and the digest is all zeros. -/
def plainLibrary : TextLibrary where
  strip := id
  lower text := String.ofList (text.toList.filter (!·.isUpper))
  hexdigest _ := "00000000"
  lower_not_upper := by simp
  hexdigest_hex := by simp

def edgeProfile : List (String × RawProfile) := [("Edge 1", .object (.ok .xhttp))]

end ArtifactProfileMapper

end VpnControl.Profiles
