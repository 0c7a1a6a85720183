/-
Module: ReviewGroups.Setup
Purpose: What comes before a client is used: surroundings that change, settings that are asked for,
  and clients that are built from them.
Trusted boundary: none
Main exports: Setup, Setup.Step, Setup.Answer, Setup.fresh, Setup.perform, Setup.run
-/
import ReviewGroups.ReviewClient
import ReviewGroups.Settings.Load

namespace ReviewGroups

/-- The settings that can be had, and the clients that were built so far, in order. -/
structure Setup where
  store : SettingsStore
  clients : List ReviewClient
deriving Repr, Inhabited

namespace Setup

/-- What can be done: change the surroundings, have settings forgotten, ask for those that are kept,
ask for others by arguments, and build a client, with settings of one's own or without. -/
inductive Step where
  | setVariable (name : String) (value : Option String)
  | writeFile (text : Option String)
  | reset
  | get
  | load (arguments : Keyed Value)
  | configure (arguments : Keyed Value)
  | build (arguments : ReviewClient.Arguments) (settings : Option Settings)
deriving Repr, Inhabited

/-- What a step answers.  Settings that are kept come with the number of their reading. -/
inductive Answer where
  | kept (number : Nat) (settings : Settings)
  | settings (settings : Settings)
  | client (client : ReviewClient)
  | nothing
deriving Repr, Inhabited

/-- In some surroundings, nothing was read and nothing was built yet. -/
def fresh (surroundings : Surroundings) : Setup :=
  { store := { SettingsStore.fresh with surroundings := surroundings }
    clients := [] }

/-- Change the surroundings. -/
def changeSurroundings (setup : Setup) (change : Surroundings → Surroundings) : Setup :=
  { setup with store := { setup.store with surroundings := change setup.store.surroundings } }

/-- Answer a new client, which comes after all others. -/
def add (setup : Setup) (client : ReviewClient) : Except Failure Answer × Setup :=
  (.ok (.client client), { setup with clients := setup.clients ++ [client] })

/-- Take a step: what it comes to, and what there is afterwards. -/
def perform (setup : Setup) : Step → Except Failure Answer × Setup
  | .setVariable name value =>
      (.ok .nothing, setup.changeSurroundings fun known => known.setVariable name value)
  | .writeFile text =>
      (.ok .nothing, setup.changeSurroundings fun known => { known with file := text })
  | .reset => (.ok .nothing, { setup with store := setup.store.reset })
  | .get =>
      let (result, store) := setup.store.get
      (result.map fun (number, settings) => .kept number settings, { setup with store := store })
  | .load arguments => ((setup.store.surroundings.load arguments).map .settings, setup)
  | .configure arguments => ((setup.store.surroundings.configure arguments).map .settings, setup)
  | .build arguments (some settings) => setup.add (.new arguments settings)
  | .build arguments none =>
      let (result, store) := setup.store.get
      let read := { setup with store := store }
      match result with
      | .ok (_, settings) => read.add (.new arguments settings)
      | .error failure => (.error failure, read)

/-- Take steps one after the other, each one whatever came of the one before it. -/
def run (setup : Setup) : List Step → List (Except Failure Answer) × Setup
  | [] => ([], setup)
  | step :: steps =>
      let (outcome, next) := setup.perform step
      let (outcomes, last) := next.run steps
      (outcome :: outcomes, last)

end Setup

end ReviewGroups
