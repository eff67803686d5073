import SmartMeal.Library.Run
import SmartMeal.Library.Edits
import SmartMeal.FavoriteWrites
import SmartMeal.SessionEnd
import SmartMeal.Convergence
import SmartMeal.Library.RetryLoop
import SmartMeal.RefreshTermination
import SmartMeal.FavoritesProcess
import SmartMeal.AccountIsolation
import SmartMeal.SyncEdits
import SmartMeal.Library.Refreshed
import SmartMeal.Screens
import SmartMeal.ToggleLaw
import SmartMeal.DistinctFavorites
import SmartMeal.BookmarkFlags
import SmartMeal.Library.Pieces
import SmartMeal.IngredientNotation
import SmartMeal.Library.Traversal
import SmartMeal.RecipeDecoders
import SmartMeal.PayloadSafety
import SmartMeal.StoredElements
import SmartMeal.SyncOutcome
import SmartMeal.Library.HeapReads
import SmartMeal.SearchResults
import SmartMeal.HomeLoading
import SmartMeal.Library.History
import SmartMeal.Conversation
import SmartMeal.AuthorizedRetry
import SmartMeal.ProfileLoading
import SmartMeal.RootScreen
import SmartMeal.HomeCompletion
import SmartMeal.MalformedElements
import SmartMeal.FavoritesMirror
import SmartMeal.FlowCoordinators
import SmartMeal.ListScreens
import SmartMeal.RecipeCells
import SmartMeal.RecipeStorage
import SmartMeal.RowReloads
import SmartMeal.SignIn
import SmartMeal.Library.Custody
import SmartMeal.EditDelivery
import SmartMeal.Library.Countdown
import SmartMeal.EditCompletion
import SmartMeal.ListControllers
import SmartMeal.ListRefresh
import SmartMeal.SignInScreens
import SmartMeal.SignInSettling
import SmartMeal.OnboardingPages
import SmartMeal.WholeApp
import SmartMeal.StoreRecovery
import SmartMeal.StoreProjections
import SmartMeal.RepeatedTaps
import SmartMeal.HomeTable
import SmartMeal.DetailLayout
import SmartMeal.TabNavigation
import SmartMeal.BookmarkIcons
import SmartMeal.HomeSafety
