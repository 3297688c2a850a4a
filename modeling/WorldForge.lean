import WorldForge.Scenario.Play
import WorldForge.Proofs.Catalog
import WorldForge.Proofs.Journal
import WorldForge.Proofs.Ledger.Reached
import WorldForge.Proofs.Factory.Work
import WorldForge.Proofs.Factory.Undoing
import WorldForge.Proofs.Factory.Account
import WorldForge.Proofs.Factory.Operation
import WorldForge.Proofs.Factory.Rollback
import WorldForge.Proofs.Budget
import WorldForge.Proofs.Factory.Spawn
import WorldForge.Proofs.Factory.Course
import WorldForge.Proofs.Factory.Chronicle
import WorldForge.Proofs.Factory.Announcement
import WorldForge.Proofs.Factory.Confinement
import WorldForge.Proofs.Transaction.Outcome
import WorldForge.Proofs.Transaction.Delivery
import WorldForge.Proofs.Ledger.History
import WorldForge.Proofs.Ledger.Permanence
import WorldForge.Proofs.Ledger.Coherence
import WorldForge.Proofs.Ledger.Shelf
import WorldForge.Proofs.Factory.RegisterAll
import WorldForge.Proofs.Keeping
import WorldForge.Proofs.Realm.Changes
import WorldForge.Proofs.Scenario.Changes
import WorldForge.Proofs.Realm.Histories
import WorldForge.Proofs.Scenario.Ledgers
import WorldForge.Proofs.Scenario.Announcements
import WorldForge.Proofs.Scenario.Refusals
import WorldForge.Proofs.Transaction.Reentrance
import WorldForge.Proofs.Transaction.Life
import WorldForge.Proofs.Transaction.Agreement
import WorldForge.Proofs.Scenario.Transactions
import WorldForge.Proofs.Ledger.Renumbering
import WorldForge.Proofs.Parallel
import WorldForge.Proofs.Ledger.Lodging
import WorldForge.Proofs.Factory.Lodging
import WorldForge.Proofs.Realm.Lodging
import WorldForge.Proofs.Ledger.Arrival
import WorldForge.Proofs.Realm.Arrival
import WorldForge.Proofs.Factory.Independence
import WorldForge.Proofs.Realm.Service
import WorldForge.Proofs.Realm.Erasure
import WorldForge.Proofs.Scenario.Catalogs
import WorldForge.Proofs.Overlooking
import WorldForge.Proofs.Factory.TwoPaths
import WorldForge.Proofs.Dialogue
import WorldForge.Proofs.Factory.Attempts
import WorldForge.Proofs.Realm.Deeds
import WorldForge.Proofs.Scenario.Dialogues
import WorldForge.Proofs.Scenario.Walks
import WorldForge.Proofs.Scenario.Budgets
import WorldForge.Proofs.Factory.Pieces
import WorldForge.Proofs.Factory.Making
import WorldForge.Proofs.Scenario.Recipes
import WorldForge.Proofs.Catalog.Derivation
import WorldForge.Proofs.Scenario.Sharing
import WorldForge.Proofs.Factory.Halting
import WorldForge.Proofs.Factory.FirstFailure
import WorldForge.Proofs.Factory.Stages
import WorldForge.Proofs.Factory.FirstError
import WorldForge.Proofs.Ledger.Deployment
import WorldForge.Proofs.Scenario.Configurations
import WorldForge.Proofs.Factory.Documented
import WorldForge.Proofs.Factory.OwnSteps
import WorldForge.Proofs.Factory.Records
import WorldForge.Proofs.Settings.Fields
import WorldForge.Proofs.Scenario.Settings
