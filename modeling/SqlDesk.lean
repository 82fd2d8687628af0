import SqlDesk.Main
import SqlDesk.Help
import SqlDesk.Logging
import SqlDesk.Editor.Highlight
import SqlDesk.Proofs.Engine.Words
import SqlDesk.Proofs.Format.Command
import SqlDesk.Proofs.Disk
import SqlDesk.Proofs.Text.Utf8
import SqlDesk.Proofs.Toml.Line
import SqlDesk.Proofs.Toml.File
import SqlDesk.Proofs.Options.Table
import SqlDesk.Proofs.Settings.File
import SqlDesk.Proofs.Settings.Store
import SqlDesk.Proofs.Options.File
import SqlDesk.Proofs.Format.Editor
import SqlDesk.Proofs.Format.Caret
import SqlDesk.Proofs.Settings.Exchange
import SqlDesk.Proofs.Format.SaveGuard
import SqlDesk.Proofs.Window.Save
import SqlDesk.Proofs.Dialog.Field
import SqlDesk.Proofs.Dialog.Form
import SqlDesk.Proofs.Settings.Session
import SqlDesk.Proofs.Dialog.Store
import SqlDesk.Proofs.Dialog.Exchange
import SqlDesk.Proofs.Dialog.Unsaved
import SqlDesk.Proofs.Window.Options
import SqlDesk.Proofs.Window.Session
import SqlDesk.Proofs.Window.Title
import SqlDesk.Proofs.Hotkey
import SqlDesk.Proofs.Window.Hotkey
import SqlDesk.Proofs.Toml.Flaw
import SqlDesk.Proofs.Settings.Start
import SqlDesk.Proofs.Settings.Document
import SqlDesk.Proofs.Format.Configuration
import SqlDesk.Proofs.Hotkey.Exchange
import SqlDesk.Proofs.Engine.Literal
import SqlDesk.Proofs.Options.Order
import SqlDesk.Proofs.Dialog.Save
import SqlDesk.Proofs.Settings.Import
import SqlDesk.Proofs.Dialog.Import
import SqlDesk.Proofs.Engine.Join
import SqlDesk.Proofs.Engine.Break
import SqlDesk.Proofs.Dialog.Unedited
import SqlDesk.Proofs.Dialog.Defaults
import SqlDesk.Proofs.Hotkey.Inquiry
import SqlDesk.Proofs.Hotkey.Binding
import SqlDesk.Proofs.Engine.Nesting
import SqlDesk.Proofs.Path.Extension
import SqlDesk.Proofs.Window.Reopen
import SqlDesk.Proofs.Editor.Highlight
import SqlDesk.Proofs.Dialog.Count
