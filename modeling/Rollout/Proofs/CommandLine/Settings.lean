import Rollout.CommandLine.Settings
import Rollout.Proofs.Except

/-!
# Settled options

Every option is settled, some of them perhaps early because they are given on the command line. What the
settings have in the end is what the texts for the options say: the paths of the registry and of the
output, and for each contract the address that is given explicitly (`settings_of_eq_ok`).
-/

namespace Rollout.CommandLine

variable {files : File.Tree} {arguments : Arguments} {environment : Environment}
  {settings settings' : Settings} {parameter : Parameter} {contract : Contract} {address : Address}

/-! ## What the texts say -/

/-- The address in the text for an option, if it is not blank. -/
def addressIn (text : String) : Option Address :=
  match suppliedAddress (.text text) with
  | .ok found => found
  | .error _ => none

/-- The address that is given explicitly for a contract. -/
def explicitAddress? (arguments : Arguments) (environment : Environment) (contract : Contract) :
    Option Address :=
  (textFor? arguments environment (.address contract)).bind addressIn

/-- The path that is given for an option. -/
def pathFor? (arguments : Arguments) (environment : Environment) (parameter : Parameter) :
    Option File.Path :=
  (textFor? arguments environment parameter).map .ofText

/-! ## One option -/

theorem settlePath_eq_ok {rule : PathRule} {text : String} {path : File.Path}
    (h : settlePath files rule text = .ok path) : path = .ofText text := by
  unfold settlePath at h
  split at h
  · split at h
    · cases h
    · exact (Except.ok.inj h).symm
  · split at h
    · exact (Except.ok.inj h).symm
    · cases h
  · split at h
    · cases h
    · exact (Except.ok.inj h).symm
  · cases h

/-- Settling an option changes the paths and the addresses as its text says. -/
theorem settleText_eq_ok {text : String}
    (h : settleText files settings parameter text = .ok settings') :
    settings'.registry = (if parameter = .registry then some (.ofText text) else settings.registry) ∧
    settings'.output = (if parameter = .output then some (.ofText text) else settings.output) ∧
    ∀ entry, entry ∈ settings'.addresses ↔ entry ∈ settings.addresses ∨
      (parameter = .address entry.1 ∧ addressIn text = some entry.2) := by
  cases parameter with
  | registry =>
    obtain ⟨path, hpath, hreturn⟩ := except_bind_eq_ok.1 h
    cases hreturn
    rw [settlePath_eq_ok hpath]
    simp
  | output =>
    obtain ⟨path, hpath, hreturn⟩ := except_bind_eq_ok.1 h
    cases hreturn
    rw [settlePath_eq_ok hpath]
    simp
  | artifacts =>
    obtain ⟨path, -, hreturn⟩ := except_bind_eq_ok.1 h
    cases hreturn
    simp
  | accountIndex =>
    obtain ⟨index, -, hreturn⟩ := except_bind_eq_ok.1 h
    cases hreturn
    simp
  | address contract =>
    obtain ⟨found, hfound, hreturn⟩ := except_bind_eq_ok.1 h
    have hin : addressIn text = found := by rw [addressIn, hfound]
    cases found with
    | none =>
      cases hreturn
      simp [hin]
    | some address =>
      cases hreturn
      refine ⟨rfl, rfl, fun entry => ?_⟩
      obtain ⟨other, otherAddress⟩ := entry
      simp [hin, eq_comm]
  | rpcUrl | orchestratorUrl | mnemonic | checkPredeployed | interactive | help =>
    cases h
    simp

/-- An option that is not given leaves the paths and the addresses as they are. -/
theorem settleOption_none (h : settleOption files settings parameter none = .ok settings') :
    settings'.registry = settings.registry ∧ settings'.output = settings.output ∧
      settings'.addresses = settings.addresses := by
  unfold settleOption at h
  cases parameter with
  | artifacts =>
    obtain ⟨path, -, hreturn⟩ := except_bind_eq_ok.1 h
    cases hreturn
    exact ⟨rfl, rfl, rfl⟩
  | _ =>
    cases h
    exact ⟨rfl, rfl, rfl⟩

/-! ## All options -/

/-- What settling some options has made of settings. -/
structure Settles (arguments : Arguments) (environment : Environment) (parameters : List Parameter)
    (settings settings' : Settings) : Prop where
  registry : settings'.registry = if .registry ∈ parameters then
    (pathFor? arguments environment .registry).or settings.registry else settings.registry
  output : settings'.output = if .output ∈ parameters then
    (pathFor? arguments environment .output).or settings.output else settings.output
  addresses : ∀ entry, entry ∈ settings'.addresses ↔ entry ∈ settings.addresses ∨
    (.address entry.1 ∈ parameters ∧ explicitAddress? arguments environment entry.1 = some entry.2)

theorem settles_single (h : settleOption files settings parameter
    (textFor? arguments environment parameter) = .ok settings') :
    Settles arguments environment [parameter] settings settings' := by
  cases htext : textFor? arguments environment parameter with
  | none =>
    rw [htext] at h
    obtain ⟨hregistry, houtput, haddresses⟩ := settleOption_none h
    refine ⟨?_, ?_, fun entry => ?_⟩
    · rw [hregistry]
      by_cases hparameter : parameter = .registry
      · simp [← hparameter, pathFor?, htext]
      · simp [Ne.symm hparameter]
    · rw [houtput]
      by_cases hparameter : parameter = .output
      · simp [← hparameter, pathFor?, htext]
      · simp [Ne.symm hparameter]
    · rw [haddresses]
      by_cases hparameter : parameter = .address entry.1
      · simp [← hparameter, explicitAddress?, htext]
      · simp [Ne.symm hparameter]
  | some text =>
    rw [htext] at h
    obtain ⟨hregistry, houtput, haddresses⟩ := settleText_eq_ok h
    refine ⟨?_, ?_, fun entry => ?_⟩
    · rw [hregistry]
      by_cases hparameter : parameter = .registry
      · simp [← hparameter, pathFor?, htext]
      · simp [hparameter, Ne.symm hparameter]
    · rw [houtput]
      by_cases hparameter : parameter = .output
      · simp [← hparameter, pathFor?, htext]
      · simp [hparameter, Ne.symm hparameter]
    · rw [haddresses]
      by_cases hparameter : parameter = .address entry.1
      · simp [← hparameter, explicitAddress?, htext]
      · simp [hparameter, Ne.symm hparameter]

theorem Settles.trans {first second : List Parameter} {mid : Settings}
    (h : Settles arguments environment first settings mid)
    (h' : Settles arguments environment second mid settings') :
    Settles arguments environment (first ++ second) settings settings' where
  registry := by
    rw [h'.registry, h.registry]
    by_cases hfirst : .registry ∈ first <;> by_cases hsecond : .registry ∈ second <;>
      cases pathFor? arguments environment .registry <;> simp [hfirst, hsecond]
  output := by
    rw [h'.output, h.output]
    by_cases hfirst : .output ∈ first <;> by_cases hsecond : .output ∈ second <;>
      cases pathFor? arguments environment .output <;> simp [hfirst, hsecond]
  addresses entry := by
    rw [h'.addresses, h.addresses, List.mem_append, or_assoc, ← or_and_right]

theorem settles_of_settleAll {parameters : List Parameter}
    (h : settleAll files arguments environment settings parameters = .ok settings') :
    Settles arguments environment parameters settings settings' := by
  induction parameters generalizing settings with
  | nil =>
    cases h
    exact ⟨rfl, rfl, by simp⟩
  | cons parameter rest ih =>
    unfold settleAll at h
    cases hoption : settleOption files settings parameter
        (textFor? arguments environment parameter) with
    | error fault =>
      rw [hoption] at h
      cases h
    | ok mid =>
      rw [hoption] at h
      exact (settles_single hoption).trans (ih h)

/-- Every option is settled. -/
theorem mem_settleOrder (h : parameter ∈ Parameter.declared) : parameter ∈ arguments.settleOrder := by
  unfold Arguments.settleOrder
  by_cases hgiven : arguments.has parameter = true
  · refine List.mem_append_left _ (List.mem_eraseDups.2 ?_)
    obtain ⟨entry, hentry, hsame⟩ := List.any_eq_true.1 hgiven
    exact List.mem_map.2 ⟨entry, hentry, of_decide_eq_true hsame⟩
  · refine List.mem_append_right _ (List.mem_filter.2 ⟨h, ?_⟩)
    simpa using hgiven

/-- In a list whose entries for a key are known, the key is looked up to what they say. -/
theorem lookup_of_mem_iff {entries : List (Contract × Address)} {found : Option Address}
    (h : ∀ address, (contract, address) ∈ entries ↔ found = some address) :
    entries.lookup contract = found := by
  cases hlookup : entries.lookup contract with
  | some address =>
    obtain ⟨before, after, rfl, -⟩ := List.lookup_eq_some_iff.1 hlookup
    exact ((h address).1 (by simp)).symm
  | none =>
    cases found with
    | none => rfl
    | some address =>
      have hmem := (h address).2 rfl
      have hdiffer := List.lookup_eq_none_iff.1 hlookup _ hmem
      simp at hdiffer

/-- **What the settings say.** The paths and the explicit addresses of settings are those that the
command line and the environment give. -/
theorem settings_of_eq_ok (h : Settings.of files arguments environment = .ok settings) :
    settings.registry = pathFor? arguments environment .registry ∧
    settings.output = pathFor? arguments environment .output ∧
    ∀ contract, settings.addresses.lookup contract =
      explicitAddress? arguments environment contract := by
  obtain ⟨settled, hsettled, hextra⟩ := except_bind_eq_ok.1 h
  have hsame : settled = settings := by
    split at hextra
    · exact Except.ok.inj hextra
    · cases hextra
  obtain ⟨hregistry, houtput, haddresses⟩ := settles_of_settleAll hsettled
  rw [hsame] at hregistry houtput haddresses
  refine ⟨?_, ?_, fun contract => lookup_of_mem_iff fun address => ?_⟩
  · rw [hregistry, if_pos (mem_settleOrder (by decide))]
    exact Option.or_none
  · rw [houtput, if_pos (mem_settleOrder (by decide))]
    exact Option.or_none
  · have hdeclared : .address contract ∈ Parameter.declared := by cases contract <;> decide
    rw [haddresses]
    simp [mem_settleOrder hdeclared]

end Rollout.CommandLine
