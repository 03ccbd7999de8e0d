import Rvpn.Core
import Rvpn.Lib.Run

/-!
# The resolver file

Model of `set_dns_resolv_conf_fallback` and `revert_dns_resolv_conf_fallback` in
`crates/rvpn-net/src/linux.rs`. The file and its backup are the only state that the two share, so a
restart of the process changes nothing. The backup is also the mark that the file is managed: a file
that was not there leaves no mark.
-/

namespace Rvpn.Net

/-- `/etc/resolv.conf` and its `.rvpn-backup`; none if there is no file. -/
structure ResolverFiles where
  conf : Option (List UInt8)
  backup : Option (List UInt8)
  deriving DecidableEq

namespace ResolverFiles

/-- The text that the fallback writes; `display` is the text of an address. -/
def managedContents (display : IpAddr → String) (servers : List IpAddr) : String :=
  servers.foldl (fun contents server => contents ++ "nameserver " ++ display server ++ "\n")
    "# Managed by RVPN (systemd-resolved unavailable)\n"

/-- `SystemNet::set_dns_resolv_conf_fallback`. -/
def setDnsResolvConfFallback (display : IpAddr → String) (files : ResolverFiles)
    (servers : List IpAddr) : ResolverFiles where
  conf := some (managedContents display servers).toUTF8.toList
  backup := if files.backup.isNone then files.conf else files.backup

/-- `SystemNet::revert_dns_resolv_conf_fallback`. -/
def revertDnsResolvConfFallback (files : ResolverFiles) : ResolverFiles :=
  match files.backup with
  | some backup => { conf := some backup, backup := none }
  | none => files

/-- The two calls, and a restart of the process between them. -/
inductive Call where
  | set (servers : List IpAddr)
  | revert
  | restart
  deriving DecidableEq

def step (display : IpAddr → String) (files : ResolverFiles) : Call → ResolverFiles
  | .set servers => setDnsResolvConfFallback display files servers
  | .revert => revertDnsResolvConfFallback files
  | .restart => files

def unmanaged (initial : Option (List UInt8)) : ResolverFiles where
  conf := initial
  backup := none

variable {display : IpAddr → String}

@[simp] lemma revert_unmanaged (initial : Option (List UInt8)) :
    revertDnsResolvConfFallback (unmanaged initial) = unmanaged initial :=
  rfl

/-- The files are untouched, or the backup holds the original. -/
def Kept (original : List UInt8) (files : ResolverFiles) : Prop :=
  files = unmanaged (some original) ∨ files.backup = some original

variable {files : ResolverFiles}

lemma Kept.revert {original : List UInt8} (kept : Kept original files) :
    revertDnsResolvConfFallback files = unmanaged (some original) := by
  rcases kept with rfl | held
  · exact revert_unmanaged _
  · rw [revertDnsResolvConfFallback, held]
    rfl

lemma Kept.step {original : List UInt8} (call : Call) (kept : Kept original files) :
    Kept original (step display files call) := by
  cases call with
  | set servers =>
    right
    rcases kept with rfl | held
    · rfl
    · simp [ResolverFiles.step, setDnsResolvConfFallback, held]
  | revert => exact .inl kept.revert
  | restart => exact kept

/-- After a set the file is there, and no later call removes it. -/
lemma conf_isSome_step (call : Call) (there : files.conf.isSome) :
    (step display files call).conf.isSome := by
  cases call with
  | set servers => rfl
  | revert =>
    show (revertDnsResolvConfFallback files).conf.isSome
    unfold revertDnsResolvConfFallback
    split
    · rfl
    · exact there
  | restart => exact there

lemma conf_isSome_of_set {calls : List Call} {servers : List IpAddr}
    (set : Call.set servers ∈ calls) : (run (step display) files calls).conf.isSome := by
  obtain ⟨pre, post, rfl⟩ := List.append_of_mem set
  rw [run_append, run_cons]
  exact run_invariant' (I := fun files : ResolverFiles => files.conf.isSome) rfl
    fun _ call there => conf_isSome_step call there

lemma run_unmanaged {initial : Option (List UInt8)} {calls : List Call}
    (noSet : ∀ servers, Call.set servers ∉ calls) :
    run (step display) (unmanaged initial) calls = unmanaged initial := by
  have only : EachStep (step display) (fun _ call => ∀ servers, call ≠ .set servers)
      (unmanaged initial) calls := by
    intro pre call post eq servers is
    exact noSet servers (by simp [eq, is])
  refine run_invariant (I := fun files => files = unmanaged initial) rfl ?_ only
  intro files call untouched other
  subst untouched
  cases call with
  | set servers => exact absurd rfl (other servers)
  | revert => exact revert_unmanaged initial
  | restart => rfl

/-- Every revert restores the original iff it was there at first or no revert follows a set. -/
theorem revert_restores_iff (display : IpAddr → String) (initial : Option (List UInt8))
    (calls : List Call) : (∀ pre post, calls = pre ++ .revert :: post →
      run (step display) (unmanaged initial) (pre ++ [.revert]) = unmanaged initial) ↔
    (initial.isSome ∨ ∀ pre post, calls = pre ++ .revert :: post → ∀ servers, .set servers ∉ pre) := by
  refine ⟨?_, ?_⟩
  · intro restores
    cases initial with
    | some original => exact .inl rfl
    | none =>
      right
      intro pre post eq servers set
      -- the set has created a file, and the revert cannot know that there was none
      have created : (run (step display) (unmanaged none) (pre ++ [.revert])).conf.isSome :=
        conf_isSome_of_set (List.mem_append_left _ set)
      rw [restores pre post eq] at created
      cases created
  · intro condition pre post eq
    rw [run_append]
    rcases condition with there | noSet
    · obtain ⟨original, rfl⟩ := Option.isSome_iff_exists.1 there
      exact (run_invariant' (I := Kept original) (.inl rfl) fun _ call => Kept.step call).revert
    · rw [run_unmanaged (noSet pre post eq)]
      rfl

/-- Without a file at first, set and revert leave the file of the set. -/
theorem revert_leaves_managed_file : let display : IpAddr → String := fun _ => "192.0.2.53"
    let servers := [IpAddr.v4 (Bytes.ofList 4 [192, 0, 2, 53])]
    let managed := (managedContents display servers).toUTF8.toList
    run (step display) (unmanaged none) [.set servers, .revert] =
        { conf := some managed, backup := none } ∧
      run (step display) (unmanaged none) [.set servers, .revert, .set servers, .restart] =
        { conf := some managed, backup := some managed } :=
  ⟨rfl, rfl⟩

end ResolverFiles
end Rvpn.Net
