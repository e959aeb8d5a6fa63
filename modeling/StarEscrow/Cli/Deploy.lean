/-
  StarEscrow.Cli.Deploy

  The client's `deploy` command and what it leaves in the `.env` file.

  The command runs other programs and works on files.  What these do in one
  attempt is a `Machine`: whether the build and the deployment ran and what
  they printed, which files there are, and which operations on the `.env` file
  fail.  Everything the command itself decides is modelled: the arguments, the
  order of the checks, the texts of the errors, and what is written.
-/

import StarEscrow.Cli.EnvStore
import Mathlib.Data.List.DropRight

namespace StarEscrow.Cli

/-! ## The machine -/

/-- A path, as it is displayed.  Not every path is valid UTF-8. -/
structure Path where
  name : List Char
  utf8 : Bool

def Path.toStr (p : Path) : Option (List Char) := if p.utf8 then some p.name else none

/-- What a program that ran left behind; the texts are decoded. -/
structure Output where
  success : Bool
  stdout : List Char
  stderr : List Char

/-- What operations on the `.env` file do. -/
structure Disk where
  /-- An existing file can be read. -/
  read : Bool
  create : Bool
  /-- Writing fails after so many characters. -/
  full : Option ℕ

/-- What the machine does in one attempt.  A program that is not found gives `none`. -/
structure Machine where
  /-- Whether `stellar contract build` succeeds. -/
  build : Option Bool
  fileExists : Path → Bool
  /-- `stellar` with arguments. -/
  stellar : List (List Char) → Option Output
  disk : Disk

/-! ## Rust's `trim` -/

/-- `char::is_whitespace`. -/
def isWhitespace (c : Char) : Bool :=
  (9 ≤ c.toNat ∧ c.toNat ≤ 13) ∨ c.toNat = 0x20 ∨ c.toNat = 0x85 ∨ c.toNat = 0xA0 ∨
    c.toNat = 0x1680 ∨ (0x2000 ≤ c.toNat ∧ c.toNat ≤ 0x200A) ∨ c.toNat = 0x2028 ∨
    c.toNat = 0x2029 ∨ c.toNat = 0x202F ∨ c.toNat = 0x205F ∨ c.toNat = 0x3000

/-- `str::trim`. -/
def trim (text : List Char) : List Char :=
  (text.dropWhile isWhitespace).rdropWhile isWhitespace

/-! ## The command -/

/-- The key that the client writes. -/
def contractIdKey : List Char := "ESCROW_CONTRACT_ID".toList

def defaultWasm : Path := ⟨"target/wasm32-unknown-unknown/release/escrow.wasm".toList, true⟩

/-- The arguments of `deploy_contract`, less the path of the `.env` file. -/
structure DeployArgs where
  rpcUrl : List Char
  networkPassphrase : List Char
  wasm : Option Path
  deployerSecret : List Char

/-- Step 1: the path of the WASM file, built if none is given. -/
def resolveWasm (m : Machine) (args : DeployArgs) : Except (List Char) Path :=
  match args.wasm with
  | some p => .ok p
  | none =>
    match m.build with
    | none => .error ("stellar CLI not found — install from " ++
        "https://developers.stellar.org/docs/tools/developer-tools/cli/install-cli").toList
    | some false => .error "`stellar contract build` failed".toList
    | some true => .ok defaultWasm

/-- Steps 1 and 2: the contract id that the deployment printed. -/
def deployedId (m : Machine) (args : DeployArgs) : Except (List Char) (List Char) := do
  let wasmPath ← resolveWasm m args
  if !m.fileExists wasmPath then
    throw ("WASM file not found: ".toList ++ wasmPath.name)
  let path ← match wasmPath.toStr with
    | some path => pure path
    | none => throw "invalid wasm path".toList
  let out ← match m.stellar ["contract".toList, "deploy".toList, "--wasm".toList, path,
      "--source".toList, args.deployerSecret, "--rpc-url".toList, args.rpcUrl,
      "--network-passphrase".toList, args.networkPassphrase] with
    | some out => pure out
    | none => throw "stellar CLI not found".toList
  if !out.success then
    throw ("Deployment failed: ".toList ++ out.stderr)
  let contractId := trim out.stdout
  if contractId.isEmpty then
    throw "Deployment succeeded but no contract ID was returned".toList
  return contractId

/-- `upsert_env_var` with the operations on the file: its result, and what the file then is. -/
def upsertEnvFile (disk : Disk) (file : Option (List Char)) (key value : List Char) :
    Except (List Char) Unit × Option (List Char) :=
  if file.isSome && !disk.read then (.error "reading .env file".toList, file)
  else if !disk.create then (.error "writing .env file".toList, file)
  else
    match disk.full with
    | none => (.ok (), some (upsertEnvVar file key value))
    -- the file was emptied when it was created
    | some n => (.error "writing .env file".toList, some ((upsertEnvVar file key value).take n))

/-- `deploy_contract`: the contract id it reports, and what the `.env` file then is. -/
def deployContract (m : Machine) (args : DeployArgs) (file : Option (List Char)) :
    Except (List Char) (List Char) × Option (List Char) :=
  match deployedId m args with
  | .error e => (.error e, file)
  | .ok contractId =>
    match upsertEnvFile m.disk file contractIdKey contractId with
    | (.error e, file') => (.error e, file')
    | (.ok (), file') => (.ok contractId, file')

/-- One attempt after the other: the results, and what the file is in the end. -/
def deploys (file : Option (List Char)) :
    List (Machine × DeployArgs) → List (Except (List Char) (List Char)) × Option (List Char)
  | [] => ([], file)
  | (m, args) :: attempts =>
    let (result, file') := deployContract m args file
    let (results, last) := deploys file' attempts
    (result :: results, last)

/-- The contract ids that were reported. -/
def reported (results : List (Except (List Char) (List Char))) : List (List Char) :=
  results.filterMap Except.toOption


/-! ## One attempt -/

theorem trim_trim (text : List Char) : trim (trim text) = trim text := by
  obtain ⟨rest, h_rest⟩ := List.rdropWhile_prefix isWhitespace (text.dropWhile isWhitespace)
  -- what is left starts with the first character that is not whitespace
  have h_start : (trim text).dropWhile isWhitespace = trim text := by
    cases h_trim : trim text with
    | nil => rfl
    | cons c cs =>
        apply List.dropWhile_cons_of_neg
        have h_head : (text.dropWhile isWhitespace).head? = some c := by
          rw [← h_rest, ← trim, h_trim]
          rfl
        have h_not := List.head?_dropWhile_not isWhitespace text
        rw [h_head] at h_not
        simpa using h_not
  rw [trim, h_start, trim, List.rdropWhile_idempotent]

/-- A contract id that was printed is not blank. -/
theorem of_deployedId {m : Machine} {args : DeployArgs} {id : List Char}
    (h : deployedId m args = .ok id) : id ≠ [] ∧ trim id = id := by
  simp only [deployedId, bind, Except.bind, pure, Except.pure, throw, throwThe,
    MonadExceptOf.throw] at h
  -- the checks in their order; only the last branch returns
  split at h
  · cases h
  split at h
  · cases h
  split at h
  on_goal 2 => cases h
  split at h
  on_goal 2 => cases h
  split at h
  · cases h
  split at h
  · cases h
  · rename_i out _ _ h_blank
    obtain rfl : trim out.stdout = id := Except.ok.inj h
    exact ⟨by simpa using h_blank, trim_trim out.stdout⟩

/-- Where no write is cut off, the file is left as it was or has the new content. -/
theorem upsertEnvFile_cases (disk : Disk) (file : Option (List Char)) (key value : List Char)
    (h_disk : disk.full = none) :
    (∃ e, upsertEnvFile disk file key value = (.error e, file)) ∨
    upsertEnvFile disk file key value = (.ok (), some (upsertEnvVar file key value)) := by
  unfold upsertEnvFile
  rw [h_disk]
  split
  · exact .inl ⟨_, rfl⟩
  · split
    · exact .inl ⟨_, rfl⟩
    · exact .inr rfl

/-- Where no write is cut off, an attempt either fails and leaves the file, or writes the id. -/
theorem deployContract_cases (m : Machine) (args : DeployArgs) (file : Option (List Char))
    (h_disk : m.disk.full = none) :
    (∃ e, deployContract m args file = (.error e, file)) ∨
    ∃ id, deployedId m args = .ok id ∧
      deployContract m args file = (.ok id, some (upsertEnvVar file contractIdKey id)) := by
  cases h_id : deployedId m args with
  | error e => exact .inl ⟨e, by rw [deployContract, h_id]⟩
  | ok id =>
      obtain ⟨e, h_file⟩ | h_file := upsertEnvFile_cases m.disk file contractIdKey id h_disk
      · exact .inl ⟨e, by simp only [deployContract, h_id, h_file]⟩
      · exact .inr ⟨id, rfl, by simp only [deployContract, h_id, h_file]⟩

/-! ## Any number of attempts -/

/-- The id that an attempt deploys, if it does, is one line. -/
def PrintsLine (t : Machine × DeployArgs) : Prop :=
  ∀ id, deployedId t.1 t.2 = .ok id → '\n' ∉ id ∧ '\r' ∉ id

/-- The attempts write what they report, in order, and nothing else. -/
theorem deploys_eq_writeAll (file : Option (List Char)) (attempts : List (Machine × DeployArgs))
    (h_disk : ∀ t ∈ attempts, t.1.disk.full = none) (h_line : ∀ t ∈ attempts, PrintsLine t) :
    ∃ as, (deploys file attempts).2 = writeAll file as ∧
      as.map (·.value) = reported (deploys file attempts).1 ∧
      ∀ a ∈ as, a.key = contractIdKey ∧ a.value ≠ [] ∧ trim a.value = a.value := by
  induction attempts generalizing file with
  | nil => exact ⟨[], rfl, rfl, by simp⟩
  | cons t attempts ih =>
      obtain ⟨m, args⟩ := t
      obtain ⟨h_m, h_disk⟩ := List.forall_mem_cons.mp h_disk
      obtain ⟨h_t, h_line⟩ := List.forall_mem_cons.mp h_line
      rcases deployContract_cases m args file h_m with ⟨e, h_step⟩ | ⟨id, h_id, h_step⟩
      · obtain ⟨as, h_file, h_values, h_keys⟩ := ih file h_disk h_line
        refine ⟨as, ?_, ?_, h_keys⟩
        · simpa only [deploys, h_step] using h_file
        · simpa only [deploys, h_step, reported, List.filterMap_cons, Except.toOption] using h_values
      · obtain ⟨as, h_file, h_values, h_keys⟩ :=
          ih (some (upsertEnvVar file contractIdKey id)) h_disk h_line
        refine ⟨⟨contractIdKey, id, by decide, h_t id h_id⟩ :: as, ?_, ?_, ?_⟩
        · simp only [deploys, h_step]
          exact h_file
        · simpa only [deploys, h_step, reported, List.filterMap_cons, Except.toOption,
            List.map_cons, List.cons.injEq, true_and] using h_values
        · exact List.forall_mem_cons.mpr ⟨⟨rfl, of_deployedId h_id⟩, h_keys⟩

/-- If all writes are to one key, the last one counts. -/
theorem assigned_of_keys {key : List Char} {as : List Assignment} (h : ∀ a ∈ as, a.key = key)
    (old : List (List Char)) :
    assigned key as old =
      match (as.map (·.value)).getLast? with
      | some value => List.replicate (max 1 old.length) value
      | none => old := by
  rw [assigned]
  cases as using List.reverseRecOn with
  | nil => rfl
  | append_singleton as a =>
      have h_last : a.key = key := h a (List.mem_append_right _ List.mem_cons_self)
      simp [h_last]

theorem assigned_of_not_keys {key k : List Char} {as : List Assignment}
    (h : ∀ a ∈ as, a.key = key) (h_ne : k ≠ key) (old : List (List Char)) :
    assigned k as old = old := by
  rw [assigned, List.find?_eq_none.mpr]
  intro a h_a h_eq
  rw [decide_eq_true_eq, h a (List.mem_reverse.mp h_a)] at h_eq
  exact h_ne h_eq.symm

theorem untouched_iff {key : List Char} {as : List Assignment} (h : ∀ a ∈ as, a.key = key)
    (h_ne : as ≠ []) (line : List Char) : Untouched as line ↔ line ≠ [] ∧ ¬ Sets key line := by
  refine and_congr_right fun _ => ⟨fun h_none => ?_, fun h_not a h_a => ?_⟩
  · obtain ⟨a, h_a⟩ := List.exists_mem_of_ne_nil as h_ne
    rw [← h a h_a]
    exact h_none a h_a
  · rw [h a h_a]
    exact h_not

/-- **The file names the last contract that was deployed.**  Run the command any number of times,
    with any arguments and whatever the programs it calls do, on a file without carriage returns
    or on none; let no write be cut off and every contract id that is printed be one line.  Then
    the contract id in the file is the last one reported, on as many lines as there were or on
    one, and as before if none was, when the file is not touched at all; reported ids are neither
    blank nor padded; and the values and the lines of all other keys are those of the file. -/
theorem deploys_keep_last (file : Option (List Char)) (attempts : List (Machine × DeployArgs))
    (h_file : '\r' ∉ file.getD []) (h_disk : ∀ t ∈ attempts, t.1.disk.full = none)
    (h_line : ∀ t ∈ attempts, PrintsLine t) :
    let ids := reported (deploys file attempts).1
    let before := file.getD []
    let after := (deploys file attempts).2.getD []
    values contractIdKey after =
      (match ids.getLast? with
      | some id => List.replicate (max 1 (values contractIdKey before).length) id
      | none => values contractIdKey before) ∧
    (ids = [] → (deploys file attempts).2 = file) ∧
    (∀ id ∈ ids, id ≠ [] ∧ trim id = id) ∧
    (∀ key, '=' ∉ key → key ≠ contractIdKey → values key after = values key before) ∧
    (lines after).filter (fun line => line ≠ [] ∧ ¬ Sets contractIdKey line) =
      (lines before).filter (fun line => line ≠ [] ∧ ¬ Sets contractIdKey line) := by
  intro ids before after
  obtain ⟨as, h_last, h_values, h_keys⟩ := deploys_eq_writeAll file attempts h_disk h_line
  have h_key : ∀ a ∈ as, a.key = contractIdKey := fun a h_a => (h_keys a h_a).1
  have h_after : after = (writeAll file as).getD [] := congrArg (·.getD []) h_last
  refine ⟨?_, fun h_none => ?_, fun id h_id => ?_, fun key h_plain h_ne => ?_, ?_⟩
  · rw [h_after, values_writeAll as h_file (by decide), assigned_of_keys h_key, h_values]
  · obtain rfl : as = [] := List.map_eq_nil_iff.mp (h_values.trans h_none)
    exact h_last
  · have h_id : id ∈ as.map (·.value) := h_values ▸ h_id
    obtain ⟨a, h_a, rfl⟩ := List.mem_map.mp h_id
    exact (h_keys a h_a).2
  · rw [h_after, values_writeAll as h_file h_plain, assigned_of_not_keys h_key h_ne]
  · cases as with
    | nil => rw [h_after, writeAll, List.foldl_nil]
    | cons a as =>
        have h_lines := lines_writeAll (a :: as) h_file
        rw [← h_after] at h_lines
        simpa only [untouched_iff h_key (List.cons_ne_nil a as)] using h_lines

/-- `stellar` succeeds for one secret key and prints an id with a line feed. -/
def Sample.machine (id : String) : Machine where
  build := none
  fileExists := fun p => p.name = "a.wasm".toList
  stellar := fun args =>
    some ⟨args.contains "S1".toList, (id ++ "\n").toList, "no account".toList⟩
  disk := ⟨true, true, none⟩

def Sample.deployArgs (wasm : Option String) (secret : String) : DeployArgs :=
  ⟨"u".toList, "p".toList, wasm.map fun name => ⟨name.toList, true⟩, secret.toList⟩

/-- Two deployments, each followed by an attempt that fails. -/
def Sample.attempts : List (Machine × DeployArgs) :=
  [(Sample.machine "C1", Sample.deployArgs (some "a.wasm") "S1"),
   (Sample.machine "C2", Sample.deployArgs (some "a.wasm") "S2"),
   (Sample.machine "C3", Sample.deployArgs (some "a.wasm") "S1"),
   (Sample.machine "C4", Sample.deployArgs (some "b.wasm") "S1")]

theorem Sample.attempts_printLine : ∀ t ∈ Sample.attempts, PrintsLine t := by
  have h_line (t : Machine × DeployArgs) (h : (deployedId t.1 t.2).toOption.all
      (fun id => '\n' ∉ id ∧ '\r' ∉ id) = true) : PrintsLine t := by
    intro id h_id
    rw [h_id] at h
    simpa [Except.toOption] using h
  intro t h_t
  exact h_line t ((by decide : ∀ t ∈ Sample.attempts, (deployedId t.1 t.2).toOption.all
    (fun id => '\n' ∉ id ∧ '\r' ∉ id) = true) t h_t)

theorem deploys_keep_last_twice :
    let file := some "A=1\n".toList
    let ids := reported (deploys file Sample.attempts).1
    let before := file.getD []
    let after := (deploys file Sample.attempts).2.getD []
    values contractIdKey after =
      (match ids.getLast? with
      | some id => List.replicate (max 1 (values contractIdKey before).length) id
      | none => values contractIdKey before) ∧
    (ids = [] → (deploys file Sample.attempts).2 = file) ∧
    (∀ id ∈ ids, id ≠ [] ∧ trim id = id) ∧
    (∀ key, '=' ∉ key → key ≠ contractIdKey → values key after = values key before) ∧
    (lines after).filter (fun line => line ≠ [] ∧ ¬ Sets contractIdKey line) =
      (lines before).filter (fun line => line ≠ [] ∧ ¬ Sets contractIdKey line) :=
  deploys_keep_last (some "A=1\n".toList) Sample.attempts (by decide) (by decide)
    Sample.attempts_printLine

example : deploys (some "A=1\n".toList) Sample.attempts =
    ([.ok "C1".toList, .error "Deployment failed: no account".toList, .ok "C3".toList,
      .error "WASM file not found: b.wasm".toList],
     some "A=1\n\nESCROW_CONTRACT_ID=C3\n".toList) := by decide

end StarEscrow.Cli
