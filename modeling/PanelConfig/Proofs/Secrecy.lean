import PanelConfig.Proofs.Environment
import PanelConfig.Proofs.SideBySide

/-! The password of the database does not get out. Two machines that differ in nothing but the
password give the same reports in every session of operations that do not answer with it: the same
answers, failures and records, and the same disk. -/

namespace PanelConfig

/-- The environments agree on all variables but that of the password. -/
def Environment.SameButPassword (e₁ e₂ : Environment) : Prop :=
  ∀ name, name ≠ Setting.password.variableName → e₁.find? name = e₂.find? name

namespace Environment.SameButPassword

variable {e₁ e₂ : Environment}

theorem value (h : e₁.SameButPassword e₂) {s : Setting} (hs : s ≠ .password) :
    e₁.value s = e₂.value s := by
  have hn : s.variableName ≠ Setting.password.variableName := by
    cases s with
    | password => exact absurd rfl hs
    | _ => decide
  rw [Environment.value, Environment.value, h _ hn]

theorem set (h : e₁.SameButPassword e₂) (name v : String) :
    (e₁.set name v).SameButPassword (e₂.set name v) := by
  intro k hk
  rw [find?_set, find?_set, h k hk]

theorem unset (h : e₁.SameButPassword e₂) (name : String) :
    (e₁.unset name).SameButPassword (e₂.unset name) := by
  intro k hk
  rw [find?_unset, find?_unset, h k hk]

end Environment.SameButPassword

theorem Environment.lasts_sameButPassword : Environment.Lasts Environment.SameButPassword where
  set h := h.set
  unset h := h.unset

/-- The machines agree on all but the password. -/
abbrev Machine.SameButPassword (m₁ m₂ : Machine) : Prop :=
  m₁.SameBut Environment.SameButPassword m₂

/-- Each part is the same that is not read from the password. -/
theorem Machine.SameButPassword.same {m₁ m₂ : Machine} (h : m₁.SameButPassword m₂) {p : Part}
    (hp : p.takes .password = false) : p.Same m₁ m₂ := by
  apply Part.same_of_settings h.installation fun _ => h.surroundings
  intro s hs
  apply h.environment.value
  rintro rfl
  rw [hp] at hs
  cases hs

/-- The operation answers with the password, or with a text that holds it. -/
def Operation.tellsPassword : Operation → Bool
  | .getDatabase | .requireDatabase | .getDatabasePath _ => true
  | _ => false

namespace Operation

variable {m₁ m₂ : Machine} {op : Operation}

theorem takes_password (hop : op.tellsPassword = false) :
    ∀ p ∈ op.reads, p.takes .password = false := by
  cases op with
  | getDatabase | requireDatabase | getDatabasePath => cases hop
  | _ => simp [reads, Part.ofReport, Part.takes]

theorem perform_sameButPassword (h : m₁.SameButPassword m₂) (hop : op.tellsPassword = false) :
    (op.perform m₁).Alike Machine.SameButPassword (op.perform m₂) :=
  h.perform_alike Environment.lasts_sameButPassword fun p hp => h.same (takes_password hop p hp)

end Operation

/-- The password does not get out. Two machines that differ in nothing but the password, which may
be set on both, on one or on none, give the same reports in every session of operations that do not
answer with it: the same answers and failures, the same records at every threshold, the same disk,
and environments that differ in nothing but the password again. -/
theorem Machine.password_stays_hidden {m₁ m₂ : Machine} (h : m₁.SameButPassword m₂)
    (ops : List Operation) (hops : ∀ op ∈ ops, op.tellsPassword = false) :
    List.Forall₂ (Report.Alike SameButPassword) (m₁.session ops) (m₂.session ops) :=
  session_alike_self Operation.perform_sameButPassword h hops

/-- A machine whose database is on a MySQL server, with no password set. -/
def Machine.onServer : Machine :=
  { outdated with environment := ⟨[("XUI_DB_CONNECTION", "MySQL"), ("XUI_DB_HOST", "db"),
      ("XUI_DB_DATABASE", "panel"), ("XUI_DB_USERNAME", "u")]⟩ }

/-- The machine with a password set. -/
def Machine.withSecret (m : Machine) (password : String) : Machine :=
  { m with environment := m.environment.set Setting.password.variableName password }

/-- A session that reports on the configuration in every way. -/
def reportingSession : List Operation :=
  [.describe none, .request ⟨"GET", "/config"⟩, .commandLine ["show", "--json"], .runService [],
    .migrate none none, .setUpLog (.written "debug"), .runService [⟨"GET", "/config"⟩]]

theorem Machine.password_stays_hidden_onServer :
    onServer.SameButPassword (onServer.withSecret "p@ss") ∧
      (∀ op ∈ reportingSession, op.tellsPassword = false) ∧
      List.Forall₂ (Report.Alike SameButPassword) (onServer.session reportingSession)
        ((onServer.withSecret "p@ss").session reportingSession) := by
  have h : onServer.SameButPassword (onServer.withSecret "p@ss") :=
    { environment := fun name hn => by
        rw [withSecret, Environment.find?_set, if_neg hn]
      platform := rfl
      executable := rfl
      workingFolder := rfl
      shippedName := rfl
      shippedVersion := rfl
      legacyFolder := rfl
      disk := rfl
      threshold := rfl }
  have hops : ∀ op ∈ reportingSession, op.tellsPassword = false := by decide
  exact ⟨h, hops, password_stays_hidden h reportingSession hops⟩

end PanelConfig
