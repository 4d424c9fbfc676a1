import JsonSql.Layout

/-!
# Settings

How to reach the database, how many connections to hold, how long a statement
may take, and whether statements are logged prominently.  Every part has a
default and may be left out; some parts go by a second, shorter name.
-/

namespace JsonSql

structure Connection where
  host : String := ""
  portNumber : UInt16 := 0
  user : String := ""
  password : String := ""
  deriving DecidableEq, Repr, Inhabited

structure Pool where
  maxConnections : UInt32 := 50
  /-- In milliseconds, for one statement. -/
  timeout : UInt64 := 30000
  deriving DecidableEq, Repr, Inhabited

structure Settings where
  connection : Connection := { }
  pool : Pool := { }
  debug : Bool := false
  deriving DecidableEq, Repr, Inhabited

def Connection.key (connection : Connection) : String :=
  connection.host ++ ":" ++ connection.portNumber.toNat.repr ++ ":" ++ connection.user

def natJson (value : Nat) : Json := .number (.integer value)

def Connection.toJson (connection : Connection) : Json :=
  .object
    [ ("hostName", .string connection.host),
      ("port", natJson connection.portNumber.toNat),
      ("userName", .string connection.user),
      ("password", .string connection.password) ]

def Pool.toJson (pool : Pool) : Json :=
  .object
    [ ("max", natJson pool.maxConnections.toNat),
      ("requestTimeout", natJson pool.timeout.toNat) ]

def Settings.toJson (settings : Settings) : Json :=
  .object
    [ ("hanaOpts", settings.connection.toJson),
      ("poolOpts", settings.pool.toJson),
      ("debug", .boolean settings.debug) ]

/-! ## Reading -/

structure ConnectionDraft where
  host : Option String := none
  portNumber : Option UInt16 := none
  user : Option String := none
  password : Option String := none

def Connection.layout : Layout ConnectionDraft Connection where
  name := "ConnectionSettings"
  slots :=
    [ .of "hostName" ["host"] (·.host)
        (fun host draft => { draft with host := some host }) readString,
      .of "port" [] (·.portNumber)
        (fun number draft => { draft with portNumber := some number })
        (fun value => (readUnsigned 16 value).map UInt16.ofNat),
      .of "userName" ["uid"] (·.user)
        (fun user draft => { draft with user := some user }) readString,
      .of "password" ["pwd"] (·.password)
        (fun password draft => { draft with password := some password }) readString ]
  start := { }
  finish _ draft := .ok
    { host := draft.host.getD ""
      portNumber := draft.portNumber.getD 0
      user := draft.user.getD ""
      password := draft.password.getD "" }

structure PoolDraft where
  maxConnections : Option UInt32 := none
  timeout : Option UInt64 := none

def Pool.layout : Layout PoolDraft Pool where
  name := "PoolOptions"
  slots :=
    [ .of "max" [] (·.maxConnections)
        (fun count draft => { draft with maxConnections := some count })
        (fun value => (readUnsigned 32 value).map UInt32.ofNat),
      .of "requestTimeout" [] (·.timeout)
        (fun timeout draft => { draft with timeout := some timeout })
        (fun value => (readUnsigned 64 value).map UInt64.ofNat) ]
  start := { }
  finish _ draft := .ok
    { maxConnections := draft.maxConnections.getD 50
      timeout := draft.timeout.getD 30000 }

structure SettingsDraft where
  connection : Option Connection := none
  pool : Option Pool := none
  debug : Option Bool := none

def Settings.layout : Layout SettingsDraft Settings where
  name := "AdapterConfig"
  slots :=
    [ .of "hanaOpts" [] (·.connection)
        (fun connection draft => { draft with connection := some connection })
        Connection.layout.read,
      .of "poolOpts" [] (·.pool)
        (fun pool draft => { draft with pool := some pool }) Pool.layout.read,
      .of "debug" [] (·.debug)
        (fun debug draft => { draft with debug := some debug }) readBoolean ]
  start := { }
  finish _ draft := .ok
    { connection := draft.connection.getD { }
      pool := draft.pool.getD { }
      debug := draft.debug.getD false }

def Settings.ofJson (value : Json) : Except ReadError Settings :=
  Settings.layout.read value

inductive Setting where
  | host (host : String)
  | portNumber (number : UInt16)
  | user (user : String)
  | password (password : String)
  | maxConnections (count : UInt32)
  | timeout (seconds nanoseconds : Nat)
  | debug (enabled : Bool)
  deriving DecidableEq, Repr

/-- Whole milliseconds of a duration, or the largest number there is. -/
def milliseconds (seconds nanoseconds : Nat) : UInt64 :=
  .ofNat (min (seconds * 1000 + nanoseconds / 1000000) (Nat.pow 2 64 - 1))

def Settings.set (settings : Settings) : Setting → Settings
  | .host host =>
      { settings with connection := { settings.connection with host := host } }
  | .portNumber number =>
      { settings with
        connection := { settings.connection with portNumber := number } }
  | .user user =>
      { settings with connection := { settings.connection with user := user } }
  | .password password =>
      { settings with
        connection := { settings.connection with password := password } }
  | .maxConnections count =>
      { settings with pool := { settings.pool with maxConnections := count } }
  | .timeout seconds nanoseconds =>
      { settings with
        pool := { settings.pool with timeout := milliseconds seconds nanoseconds } }
  | .debug enabled => { settings with debug := enabled }

def Settings.ofChanges (changes : List Setting) : Settings :=
  changes.foldl Settings.set { }

end JsonSql
