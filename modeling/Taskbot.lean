import Taskbot.Async.Machine
import Taskbot.Js.Decimal
import Taskbot.Js.Toggle
import Taskbot.Detail.OrderDetail
import Taskbot.Detail.SubTotal
import Taskbot.Projects.ProposalActivity
import Taskbot.Projects.IssuedOrders
import Taskbot.Async.BusyFlag
import Taskbot.Payment.SinglePayment
import Taskbot.Projects.ProjectActivity
import Taskbot.Projects.SelectedFreelancer
import Taskbot.Store.Session
import Taskbot.Store.SavedProjects
import Taskbot.Tasks.PostTask
import Taskbot.Tasks.TaskIdentity
import Taskbot.Async.Paging
import Taskbot.Listing.FilteredListing
import Taskbot.Listing.ShownPages
import Taskbot.Search.EveryPage
import Taskbot.Js.FormUrlencoded
import Taskbot.Js.Query
import Taskbot.Search.QueryString
import Taskbot.Js.Splice
import Taskbot.Listing.TaskDeletions
import Taskbot.Projects.SendProposal
import Taskbot.Tasks.StepTwoForm
import Taskbot.Search.TaskSearch
import Taskbot.Tasks.StepOneForm
import Taskbot.Async.Mounted
import Taskbot.Projects.PostProject
import Taskbot.Projects.DraftIdentity
import Taskbot.Tasks.WizardProgress
import Taskbot.Async.SharedText
import Taskbot.Detail.DraftIsolation
import Taskbot.Projects.ActivityFlags
import Taskbot.Store.BatchLog
import Taskbot.Projects.MilestoneStore
import Taskbot.Projects.MilestoneKeys
import Taskbot.Store.SavedHeart
import Taskbot.Js.Pushes
import Taskbot.Home.Categories
import Taskbot.Async.Drawn
import Taskbot.Search.CheckLists
import Taskbot.Listing.TaskSwitch
import Taskbot.Profile.EducationList
import Taskbot.Listing.PagingCursor
import Taskbot.Tasks.StepOneTags
import Taskbot.Js.Value
import Taskbot.Tasks.StepOneSave
import Taskbot.Js.Heap
import Taskbot.Tasks.RecordSharing
import Taskbot.Tasks.AbandonedEdit
import Taskbot.Js.PropertyOrder
import Taskbot.Projects.MilestoneEncoding
import Taskbot.Earnings.PayoutSettings
import Taskbot.Js.Remembered
import Taskbot.Profile.EducationUpdates
import Taskbot.Tasks.FileList
import Taskbot.Tasks.FileSubmission
import Taskbot.Projects.ProposalMilestones
import Taskbot.Detail.CommentDraft
import Taskbot.Tasks.Packages
import Taskbot.Tasks.SaveAfterPrefill
import Taskbot.Tasks.PackageControls
import Taskbot.Tasks.FeaturedPackage
import Taskbot.Js.Calendar
import Taskbot.Profile.EducationDates
import Taskbot.Detail.PlanIndexes
import Taskbot.Detail.ProfileGallery
import Taskbot.Earnings.PayoutHistory
import Taskbot.Listing.SavedTabs
import Taskbot.Projects.Attachments
import Taskbot.Projects.StepForms
import Taskbot.Store.Login
import Taskbot.Tasks.Gallery
import Taskbot.Async.Writes
import Taskbot.Store.Races
import Taskbot.Store.Ownership
import Taskbot.Async.Refinement
import Taskbot.Store.Screens
import Taskbot.Search.CategorySheets
import Taskbot.Disputes.DisputeThread
import Taskbot.Listing.PageReaders
import Taskbot.Downloads.Documents
import Taskbot.Projects.NewMilestones
import Taskbot.Async.Rereads
import Taskbot.Tasks.AddOns
import Taskbot.Detail.OrderActivity
import Taskbot.Async.Restarts
import Taskbot.Store.Restarts
import Taskbot.Async.Forms
import Taskbot.Profile.SettingForms
