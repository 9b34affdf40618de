import PanelConfig.Database
import PanelConfig.Text.Cut

/-! Reading the text of a connection to a MySQL server back into the settings. The text is taken
apart from the outside inwards, at the last slash, the last at sign and the last colon of the
address, so that the password may hold any of them. -/

namespace PanelConfig.DatabaseSettings

open Text

/-- What stands between the brackets of an address. -/
def ofAddress? (cs : List Char) : Option (List Char) :=
  (after? "tcp(".toList cs).bind (before? [')'])

/-- The settings whose connection has the text `s`. -/
def ofDataSource? (s : String) : Option DatabaseSettings := do
  let text ← before? parameters.toList s.toList
  let (server, database) ← cutAtLast? '/' text
  let (user, address) ← cutAtLast? '@' server
  let (host, port) ← (ofAddress? address).bind (cutAtLast? ':')
  let (username, password) ← cutAt? [':'] user
  return {
    connection := mysql
    host := String.ofList host
    port := String.ofList port
    database := String.ofList database
    username := String.ofList username
    password := String.ofList password }

end PanelConfig.DatabaseSettings
