import Mathlib.Data.List.TakeWhile
import Rvpn.Config.Server
import Rvpn.Lib.Insertions

/-!
# Forwarding rules

Model of `install_iptables` and `cleanup` in `apps/rvpn-server/src/firewall.rs`. `exec` is the meaning
of a command on the chains: `-C` looks for a rule, `-I` puts it at the front, `-D` removes its first
occurrence. An insert may be refused (`refused`); the install then stops, and what was queued for the
cleanup stays queued. A rule that was already there is not inserted, but its removal is queued all the
same.
-/

namespace Rvpn.Server
open Config Insertions

structure ChainId where
  program : String
  table : String
  chain : String
  deriving DecidableEq

abbrev Chains := ChainId → List (List String)

/-- `CleanupCommand`: a program with its arguments. -/
structure CleanupCommand where
  program : String
  args : List String
  deriving DecidableEq

/-- The table of a command (`filter` without `-t`), and the rest. -/
def selectTable : List String → String × List String
  | "-t" :: table :: args => (table, args)
  | args => ("filter", args)

/-- A run of `iptables` or `ip6tables`; none if it exits with an error. -/
def exec (chains : Chains) (command : CleanupCommand) : Option Chains :=
  let (table, args) := selectTable command.args
  match args with
  | "-C" :: chain :: spec =>
    if spec ∈ chains ⟨command.program, table, chain⟩ then some chains else none
  | "-I" :: chain :: "1" :: spec =>
    let id : ChainId := ⟨command.program, table, chain⟩
    some (Function.update chains id (spec :: chains id))
  | "-D" :: chain :: spec =>
    let id : ChainId := ⟨command.program, table, chain⟩
    if spec ∈ chains id then some (Function.update chains id ((chains id).erase spec)) else none
  | _ => none

structure FirewallRule where
  program : String
  table : Option String
  chain : String
  spec : List String
  deriving DecidableEq

namespace FirewallRule

/-- The arguments that select the table. -/
def tableArgs (rule : FirewallRule) : List String :=
  match rule.table with
  | some table => ["-t", table]
  | none => []

def check (rule : FirewallRule) : CleanupCommand :=
  ⟨rule.program, rule.tableArgs ++ ["-C", rule.chain] ++ rule.spec⟩

def insert (rule : FirewallRule) : CleanupCommand :=
  ⟨rule.program, rule.tableArgs ++ ["-I", rule.chain, "1"] ++ rule.spec⟩

def delete (rule : FirewallRule) : CleanupCommand :=
  ⟨rule.program, rule.tableArgs ++ ["-D", rule.chain] ++ rule.spec⟩

def chainId (rule : FirewallRule) : ChainId :=
  ⟨rule.program, rule.table.getD "filter", rule.chain⟩

def entry (rule : FirewallRule) : ChainId × List String :=
  (rule.chainId, rule.spec)

end FirewallRule

def familyRules (binary tunnel external cidr : String) (mtu : UInt16) : List FirewallRule :=
  let mss := if binary = "iptables" then max (mtu.toNat - 40) 536 else max (mtu.toNat - 60) 1220
  let clamp (inside outside : String) : FirewallRule :=
    ⟨binary, some "mangle", "FORWARD", ["-i", inside, "-o", outside, "-p", "tcp", "--tcp-flags",
      "SYN,RST", "SYN", "-j", "TCPMSS", "--set-mss", toString mss]⟩
  [⟨binary, none, "FORWARD", ["-i", tunnel, "-o", external, "-j", "ACCEPT"]⟩,
    ⟨binary, none, "FORWARD", ["-i", external, "-o", tunnel, "-m", "conntrack", "--ctstate",
      "ESTABLISHED,RELATED", "-j", "ACCEPT"]⟩,
    ⟨binary, some "nat", "POSTROUTING", ["-s", cidr, "-o", external, "-j", "MASQUERADE"]⟩,
    clamp tunnel external,
    clamp external tunnel]

/-- `ForwardingGuard`: settings to write back, commands to run. -/
structure ForwardingGuard where
  sysctls : List (String × String)
  cleanup : List CleanupCommand

/-- The chains and the kernel settings, with the server's guard. -/
structure Forwarding where
  chains : Chains
  files : String → String
  guard : ForwardingGuard

/-- The error of `run`. -/
inductive FirewallError where
  | exited (program : String)
  deriving DecidableEq

namespace Forwarding
variable (refused : ChainId × List String → Bool)

/-- The check of a rule and its insert if missing; none if that fails. -/
def ensureRule (chains : Chains) (rule : FirewallRule) : Option Chains :=
  if (exec chains rule.check).isSome then some chains
  else if refused rule.entry then none
  else exec chains rule.insert

/-- The loop of `install_iptables_family`. -/
def installRules : List FirewallRule → Forwarding → Except FirewallError Unit × Forwarding
  | [], s => (.ok (), s)
  | rule :: rules, s =>
    match ensureRule refused s.chains rule with
    | none => (.error (.exited rule.program), s)
    | some chains =>
      installRules rules { s with
        chains := chains
        guard.cleanup := s.guard.cleanup ++ [rule.delete] }

/-- `ForwardingGuard::install_iptables_family`. -/
def installIptablesFamily (binary tunnel external cidr : String) (mtu : UInt16) (s : Forwarding) :
    Except FirewallError Unit × Forwarding :=
  installRules refused (familyRules binary tunnel external cidr mtu) s

/-- The install of one family, if it has a network. -/
def installFamily? (binary tunnel external : String) (cidr : Option String) (mtu : UInt16)
    (s : Forwarding) : Except FirewallError Unit × Forwarding :=
  match cidr with
  | some cidr => installIptablesFamily refused binary tunnel external cidr mtu s
  | none => (.ok (), s)

/-- `ForwardingGuard::install_iptables`. -/
def installIptables (config : ForwardingConfig) (tunnel external : String) (mtu : UInt16)
    (s : Forwarding) : Except FirewallError Unit × Forwarding :=
  match installFamily? refused "iptables" tunnel external config.tunnelCidr mtu s with
  | (.error e, s) => (.error e, s)
  | (.ok _, s) => installFamily? refused "ip6tables" tunnel external config.tunnelCidrV6 mtu s

/-- `ForwardingGuard::cleanup`: commands in reverse, then settings. -/
def cleanup (s : Forwarding) : Forwarding where
  chains := s.guard.cleanup.reverse.foldl (fun chains command =>
    (exec chains command).getD chains) s.chains
  files := s.guard.sysctls.foldl (fun files setting =>
    Function.update files setting.1 setting.2) s.files
  guard := ⟨[], []⟩

/-! ### The commands on the chains -/

lemma selectTable_tableArgs (rule : FirewallRule) {flag : String} (other : flag ≠ "-t")
    (args : List String) :
    selectTable (rule.tableArgs ++ flag :: args) = (rule.table.getD "filter", flag :: args) := by
  unfold FirewallRule.tableArgs
  cases rule.table with
  | some table => rfl
  | none =>
    rw [List.nil_append]
    unfold selectTable
    split
    · next same => exact absurd (List.cons.inj same).1 other
    · rfl

lemma exec_check (chains : Chains) (rule : FirewallRule) :
    exec chains rule.check = if rule.spec ∈ chains rule.chainId then some chains else none := by
  rw [exec, FirewallRule.check, List.append_assoc]
  simp only [List.cons_append, List.nil_append, selectTable_tableArgs rule (by decide : "-C" ≠ "-t")]
  rfl

lemma exec_insert (chains : Chains) (rule : FirewallRule) : exec chains rule.insert =
      some (Function.update chains rule.chainId (rule.spec :: chains rule.chainId)) := by
  rw [exec, FirewallRule.insert, List.append_assoc]
  simp only [List.cons_append, List.nil_append, selectTable_tableArgs rule (by decide : "-I" ≠ "-t")]
  rfl

lemma exec_delete (chains : Chains) (rule : FirewallRule) :
    exec chains rule.delete = if rule.spec ∈ chains rule.chainId then
      some (Function.update chains rule.chainId ((chains rule.chainId).erase rule.spec)) else none := by
  rw [exec, FirewallRule.delete, List.append_assoc]
  simp only [List.cons_append, List.nil_append, selectTable_tableArgs rule (by decide : "-D" ≠ "-t")]
  rfl

lemma exec_delete_getD (chains : Chains) (rule : FirewallRule) :
    (exec chains rule.delete).getD chains = eraseAt chains rule.entry := by
  rw [exec_delete]
  split
  · rfl
  · next absent => exact (eraseAt_of_notMem absent).symm

/-- A rule is got past if it is there or its insert is not refused. -/
def passes (chains : Chains) (rule : FirewallRule) : Bool :=
  rule.spec ∈ chains rule.chainId || !refused rule.entry

lemma ensureRule_eq (chains : Chains) (rule : FirewallRule) : ensureRule refused chains rule =
      if passes refused chains rule then some (insertAt chains rule.entry) else none := by
  rw [ensureRule, exec_check, passes]
  by_cases there : rule.spec ∈ chains rule.chainId
  · rw [insertAt_of_mem (show rule.entry.2 ∈ chains rule.entry.1 from there)]
    simp [there]
  · have new : insertAt chains rule.entry =
        Function.update chains rule.chainId (rule.spec :: chains rule.chainId) := by
      rw [insertAt, List.insert_of_not_mem (show rule.entry.2 ∉ chains rule.entry.1 from there)]
      rfl
    cases refused rule.entry with
    | true => simp [there]
    | false => simp [there, exec_insert, new]

/-! ### The install and its cleanup -/

def reached (chains : Chains) (rules : List FirewallRule) : List FirewallRule :=
  rules.takeWhile (passes refused chains)

/-- The entries of rules, the last rule first, as the cleanup takes them. -/
def undo (rules : List FirewallRule) : List (ChainId × List String) :=
  rules.reverse.map FirewallRule.entry

/-- The rules gone through so far are in the chains and queued. -/
structure Installed (start : Forwarding) (done : List FirewallRule) (s : Forwarding) : Prop where
  chains : s.chains = insertAll start.chains (undo done)
  queue : s.guard.cleanup = start.guard.cleanup ++ done.map FirewallRule.delete
  files : s.files = start.files
  sysctls : s.guard.sysctls = start.guard.sysctls

variable {refused} {start s : Forwarding} {done rules : List FirewallRule}

lemma Installed.refl (start : Forwarding) : Installed start [] start :=
  ⟨rfl, (List.append_nil _).symm, rfl, rfl⟩

/-- The rules gone through do not change which rules are got past. -/
lemma Installed.passes_eq (inst : Installed start done s)
    (gone : ∀ rule ∈ done, passes refused start.chains rule) (rule : FirewallRule) :
    passes refused s.chains rule = passes refused start.chains rule := by
  have grown : rule.spec ∈ s.chains rule.chainId ↔
      rule.entry ∈ undo done ∨ rule.spec ∈ start.chains rule.chainId := by
    rw [inst.chains]
    exact mem_insertAll
  rw [Bool.eq_iff_iff, passes, passes, Bool.or_eq_true, Bool.or_eq_true, decide_eq_true_iff,
    decide_eq_true_iff, grown]
  refine ⟨?_, ?_⟩
  · rintro ((listed | there) | allowed)
    · -- an equal rule was got past before
      obtain ⟨other, went, same⟩ := List.mem_map.1 listed
      have passed := gone other (List.mem_reverse.1 went)
      rw [passes, Bool.or_eq_true, decide_eq_true_iff] at passed
      have specs : other.spec = rule.spec := congrArg Prod.snd same
      have ids : other.chainId = rule.chainId := congrArg Prod.fst same
      rwa [specs, ids, same] at passed
    · exact .inl there
    · exact .inr allowed
  · rintro (there | allowed)
    · exact .inl (.inr there)
    · exact .inr allowed

lemma Installed.step (inst : Installed start done s) (rule : FirewallRule) :
    Installed start (done ++ [rule]) { s with
      chains := insertAt s.chains rule.entry
      guard.cleanup := s.guard.cleanup ++ [rule.delete] } := by
  obtain ⟨chains, queue, files, sysctls⟩ := inst
  refine ⟨?_, ?_, files, sysctls⟩
  · rw [chains]
    simp [undo]
  · simp [queue]

/-- The loop goes through the rules that it gets past, and no others. -/
lemma installRules_spec (inst : Installed start done s)
    (gone : ∀ rule ∈ done, passes refused start.chains rule) :
    Installed start (done ++ reached refused start.chains rules) (installRules refused rules s).2 ∧
      ((installRules refused rules s).1 = .ok () ↔ reached refused start.chains rules = rules) := by
  induction rules generalizing done s with
  | nil => simpa [installRules, reached] using inst
  | cons rule rules ih =>
    have same := inst.passes_eq gone rule
    rw [installRules, ensureRule_eq, same]
    cases passed : passes refused start.chains rule with
    | false => simpa [reached, passed] using inst
    | true =>
      have gone : ∀ other ∈ done ++ [rule], passes refused start.chains other := by
        intro other listed
        rcases List.mem_append.1 listed with before | here
        · exact gone other before
        · rw [List.mem_singleton.1 here]
          exact passed
      have rest := ih (inst.step rule) gone
      have more : reached refused start.chains (rule :: rules) =
          rule :: reached refused start.chains rules := by
        simp [reached, passed]
      rw [more]
      simpa using rest

lemma installRules_append (more : List FirewallRule) : installRules refused (rules ++ more) s =
      match installRules refused rules s with
      | (.error e, s) => (.error e, s)
      | (.ok _, s) => installRules refused more s := by
  induction rules generalizing s with
  | nil => rfl
  | cons rule rules ih =>
    rw [List.cons_append, installRules, installRules]
    cases ensureRule refused s.chains rule with
    | none => rfl
    | some chains => exact ih

def iptablesRules (config : ForwardingConfig) (tunnel external : String) (mtu : UInt16) :
    List FirewallRule :=
  (config.tunnelCidr.elim [] fun cidr => familyRules "iptables" tunnel external cidr mtu) ++
    config.tunnelCidrV6.elim [] fun cidr => familyRules "ip6tables" tunnel external cidr mtu

lemma installFamily?_eq (binary tunnel external : String) (cidr : Option String) (mtu : UInt16) :
    installFamily? refused binary tunnel external cidr mtu s = installRules refused
        (cidr.elim [] fun cidr => familyRules binary tunnel external cidr mtu) s := by
  cases cidr with
  | none => rfl
  | some cidr => rfl

lemma installIptables_eq (config : ForwardingConfig) (tunnel external : String) (mtu : UInt16) :
    installIptables refused config tunnel external mtu s =
      installRules refused (iptablesRules config tunnel external mtu) s := by
  rw [installIptables, iptablesRules, installRules_append, installFamily?_eq]
  simp only [installFamily?_eq]

/-- The cleanup removes the rules gone through, the last one first. -/
lemma Installed.cleanup (inst : Installed start done s) (empty : start.guard.cleanup = []) :
    (Forwarding.cleanup s).chains = eraseAll s.chains (undo done) := by
  rw [Forwarding.cleanup, inst.queue, empty, List.nil_append, ← List.map_reverse, List.foldl_map,
    eraseAll, undo, List.foldl_map]
  simp only [exec_delete_getD]

/-- The install succeeds exactly if it gets past every rule. -/
theorem installIptables_ok_iff (config : ForwardingConfig) (tunnel external : String) (mtu : UInt16) :
    (installIptables refused config tunnel external mtu start).1 = .ok () ↔
      ∀ rule ∈ iptablesRules config tunnel external mtu, passes refused start.chains rule := by
  rw [installIptables_eq, (installRules_spec (Installed.refl start) (by simp)).2, reached,
    List.takeWhile_eq_self_iff]

/-- The chains are restored iff no installed rule was in its chain before. -/
theorem cleanup_installIptables_iff (refused : ChainId × List String → Bool)
    (config : ForwardingConfig) (tunnel external : String) (mtu : UInt16) (chains : Chains)
    (files : String → String) (sysctls : List (String × String)) :
    (cleanup (installIptables refused config tunnel external mtu
        ⟨chains, files, ⟨sysctls, []⟩⟩).2).chains = chains ↔
      ∀ rule ∈ reached refused chains (iptablesRules config tunnel external mtu),
        rule.spec ∉ chains rule.chainId := by
  have inst : Installed ⟨chains, files, ⟨sysctls, []⟩⟩
      (reached refused chains (iptablesRules config tunnel external mtu))
      (installIptables refused config tunnel external mtu ⟨chains, files, ⟨sysctls, []⟩⟩).2 := by
    rw [installIptables_eq]
    exact (installRules_spec (Installed.refl _) (by simp)).1
  rw [inst.cleanup rfl, inst.chains, eraseAll_insertAll_iff]
  simp [undo, FirewallRule.entry]

/-- An administrator's equal rule is gone after the cleanup. -/
theorem cleanup_removes_foreign_rule : let forward : ChainId := ⟨"iptables", "filter", "FORWARD"⟩
    let chains : Chains := fun id =>
      if id = forward then [["-i", "rvpn0", "-o", "eth0", "-j", "ACCEPT"]] else []
    let config : ForwardingConfig :=
      { enabled := true, externalInterface := some "eth0", tunnelCidr := some "10.8.0.0/24" }
    let installed := installIptables (fun _ => false) config "rvpn0" "eth0" 1400
      ⟨chains, fun _ => "", ⟨[], []⟩⟩
    installed.1 = .ok () ∧ (cleanup installed.2).chains forward = [] ∧
      (cleanup installed.2).chains ≠ chains := by
  intro forward chains config installed
  have gone : installed.1 = .ok () ∧ (cleanup installed.2).chains forward = [] := by
    decide +kernel
  refine ⟨gone.1, gone.2, ?_⟩
  intro same
  have kept : [] = chains forward := gone.2.symm.trans (congrFun same forward)
  cases kept

end Forwarding
end Rvpn.Server
