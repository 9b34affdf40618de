import PanelConfig.Database.DataSource
import PanelConfig.Session

/-! Which settings the text of a connection tells. Nothing in that text is escaped, and the password
may hold whatever separates the other parts. Main statement: a text is read as settings exactly when
they are readable and the text is that of their connection. -/

namespace PanelConfig

open Text

namespace DatabaseSettings

/-- Settings of a MySQL server whose parts, the password apart, hold none of the marks by which a
reader would cut them. -/
structure IsReadable (s : DatabaseSettings) : Prop where
  connection : s.connection = mysql
  username : ':' ∉ s.username.toList
  host : '@' ∉ s.host.toList
  port : '@' ∉ s.port.toList ∧ ':' ∉ s.port.toList
  database : '/' ∉ s.database.toList

/-- The address of the server, as it stands in the text. -/
def address (s : DatabaseSettings) : List Char :=
  "tcp(".toList ++ ((s.host.toList ++ ':' :: s.port.toList) ++ [')'])

theorem toList_dataSource (s : DatabaseSettings) :
    s.dataSource.toList =
      (((s.username.toList ++ ':' :: s.password.toList) ++ '@' :: s.address)
        ++ '/' :: s.database.toList) ++ parameters.toList := by
  simp [dataSource, address]

theorem ofAddress?_eq_some_iff {cs inner : List Char} :
    ofAddress? cs = some inner ↔ cs = "tcp(".toList ++ (inner ++ [')']) := by
  simp only [ofAddress?, Option.bind_eq_some_iff, after?_eq_some_iff, before?_eq_some_iff]
  constructor
  · rintro ⟨_, rfl, rfl⟩
    rfl
  · rintro rfl
    exact ⟨_, rfl, rfl⟩

theorem notMem_address {s : DatabaseSettings} :
    '@' ∉ s.address ↔ '@' ∉ s.host.toList ∧ '@' ∉ s.port.toList := by
  simp [address]

theorem ofDataSource?_dataSource {s : DatabaseSettings} (h : s.IsReadable) :
    ofDataSource? s.dataSource = some s := by
  have hdatabase := cutAtLast?_append h.database
    ((s.username.toList ++ ':' :: s.password.toList) ++ '@' :: s.address)
  have haddress := cutAtLast?_append (notMem_address.mpr ⟨h.host, h.port.1⟩)
    (s.username.toList ++ ':' :: s.password.toList)
  have hinner := ofAddress?_eq_some_iff.mpr (rfl : s.address = _)
  have hport := cutAtLast?_append h.port.2 s.host.toList
  have husername := cutAt?_append h.username s.password.toList
  simp only [ofDataSource?, toList_dataSource, before?_append, hdatabase, haddress, hinner, hport,
    husername, ← h.connection, Option.bind_eq_bind, Option.bind_some, Option.pure_def,
    String.ofList_toList]

theorem ofDataSource?_eq_some_iff {text : String} {s : DatabaseSettings} :
    ofDataSource? text = some s ↔ s.IsReadable ∧ s.dataSource = text := by
  refine ⟨fun h => ?_, fun ⟨hs, htext⟩ => htext ▸ ofDataSource?_dataSource hs⟩
  simp only [ofDataSource?, Option.bind_eq_bind, Option.bind_eq_some_iff, Prod.exists,
    before?_eq_some_iff, cutAtLast?_eq_some_iff, cutAt?_eq_some_iff,
    ofAddress?_eq_some_iff, Option.pure_def, Option.some.injEq] at h
  obtain ⟨_, htext, _, database, ⟨rfl, hdatabase⟩, _, _, ⟨rfl, haddress⟩, host, port,
    ⟨_, rfl, rfl, hport⟩, username, password, ⟨rfl, husername⟩, rfl⟩ := h
  have hmarks : '@' ∉ host ∧ '@' ∉ port := by simpa using haddress
  constructor
  · exact
      { connection := rfl
        username := by rwa [String.toList_ofList]
        host := by rw [String.toList_ofList]; exact hmarks.1
        port := by rw [String.toList_ofList]; exact ⟨hmarks.2, hport⟩
        database := by rwa [String.toList_ofList] }
  · rw [← String.toList_inj, toList_dataSource, htext]
    simp only [address, String.toList_ofList]

end DatabaseSettings

namespace Machine

open DatabaseSettings

theorem connectionText_of_mysql {s : DatabaseSettings} (h : s.connection = mysql) (m : Machine)
    (platform : Option String) : m.connectionText s platform = .ok s.dataSource := by
  simp [connectionText, isMysql, h]

/-- The text of the connection to a MySQL server tells all its settings, whatever the password: cut
at the last slash, the last at sign, the last colon of the address and the first colon, it is the
one text that is read as these settings, and no others have it. -/
theorem connection_text_determines_settings {s₁ s₂ : DatabaseSettings} (h₁ : s₁.IsReadable)
    (h₂ : s₂.IsReadable) (m₁ m₂ : Machine) (p₁ p₂ : Option String) :
    (∃ text, m₁.connectionText s₁ p₁ = .ok text ∧
        ∀ other, ofDataSource? other = some s₁ ↔ other = text) ∧
      (m₁.connectionText s₁ p₁ = m₂.connectionText s₂ p₂ → s₁ = s₂) := by
  rw [connectionText_of_mysql h₁.connection, connectionText_of_mysql h₂.connection]
  constructor
  · refine ⟨s₁.dataSource, rfl, fun other => ?_⟩
    rw [ofDataSource?_eq_some_iff, eq_comm]
    exact and_iff_right h₁
  · intro htext
    have hread := ofDataSource?_dataSource h₁
    rw [Except.ok.inj htext, ofDataSource?_dataSource h₂] at hread
    exact (Option.some.inj hread).symm

/-- Settings whose password looks like the rest of the text. -/
def disguised : DatabaseSettings where
  connection := mysql
  host := "db"
  port := "3306"
  database := "panel"
  username := "root"
  password := "pass:word@tcp(other:1)/data?x=@tcp("

theorem connection_text_determines_settings_disguised :
    disguised.IsReadable ∧ { disguised with host := "db:0" }.IsReadable ∧
      (∃ text, fresh.connectionText disguised none = .ok text ∧
        ∀ other, ofDataSource? other = some disguised ↔ other = text) ∧
      fresh.connectionText disguised none ≠
        fresh.connectionText { disguised with host := "db:0" } none := by
  have h₁ : disguised.IsReadable := ⟨rfl, by decide, by decide, by decide, by decide⟩
  have h₂ : { disguised with host := "db:0" }.IsReadable :=
    ⟨rfl, by decide, by decide, by decide, by decide⟩
  have h := connection_text_determines_settings h₁ h₂ fresh fresh none none
  exact ⟨h₁, h₂, h.1, fun htext => absurd (h.2 htext) (by decide)⟩

end Machine

end PanelConfig
