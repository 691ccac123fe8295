/-!
# Fields of the index

The canonical fields. A taxonomy comes in up to four flavours: the raw id, its title, the path and
the path of titles. Each field has a key, by which a program refers to it, and a name, by which the
index knows it.
-/

namespace SolrRequest

inductive Field
  | id | libraryLocale | libraryName | title | shortTitle | name | description | summary | answer
  | questionType | location | imgCaption | thumbCaption | icon | thumbnail | image | link
  | moreInfo | wcmPath | wcmTitlePath | authTemplate | referenceUrlName | contentType
  | contentTypeTitle | contentTypePath | contentTypePathTitle | audienceCountry
  | audienceCountryTitle | audienceCountryPath | audienceCountryPathTitle | audienceBrand
  | audienceBrandTitle | relatedHubs | relatedHubsTitle | relatedHubsPath | relatedHubsPathTitle
  | targetRole | targetRoleTitle | targetRolePath | targetRolePathTitle | portalLocation
  | portalLocationTitle | portalLocationPath | portalLocationPathTitle | categories
  | categoriesTitle | categoriesPath | categoriesPathTitle | topics | topicsTitle | topicsPath
  | topicsTitlePath | publishDate | startDate | endDate | nameSort | titleSort
deriving DecidableEq, Repr

namespace Field

def all : List Field := [
  .id, .libraryLocale, .libraryName, .title, .shortTitle, .name, .description, .summary, .answer,
  .questionType, .location, .imgCaption, .thumbCaption, .icon, .thumbnail, .image, .link,
  .moreInfo, .wcmPath, .wcmTitlePath, .authTemplate, .referenceUrlName, .contentType,
  .contentTypeTitle, .contentTypePath, .contentTypePathTitle, .audienceCountry,
  .audienceCountryTitle, .audienceCountryPath, .audienceCountryPathTitle, .audienceBrand,
  .audienceBrandTitle, .relatedHubs, .relatedHubsTitle, .relatedHubsPath, .relatedHubsPathTitle,
  .targetRole, .targetRoleTitle, .targetRolePath, .targetRolePathTitle, .portalLocation,
  .portalLocationTitle, .portalLocationPath, .portalLocationPathTitle, .categories,
  .categoriesTitle, .categoriesPath, .categoriesPathTitle, .topics, .topicsTitle, .topicsPath,
  .topicsTitlePath, .publishDate, .startDate, .endDate, .nameSort, .titleSort]

def catalogKey : Field → String
  | .id => "ID"
  | .libraryLocale => "LIBRARY_LOCALE"
  | .libraryName => "LIBRARY_NAME"
  | .title => "TITLE"
  | .shortTitle => "SHORT_TITLE"
  | .name => "NAME"
  | .description => "DESCRIPTION"
  | .summary => "SUMMARY"
  | .answer => "ANSWER"
  | .questionType => "QUESTION_TYPE"
  | .location => "LOCATION"
  | .imgCaption => "IMG_CAPTION"
  | .thumbCaption => "THUMB_CAPTION"
  | .icon => "ICON"
  | .thumbnail => "THUMBNAIL"
  | .image => "IMAGE"
  | .link => "LINK"
  | .moreInfo => "MORE_INFO"
  | .wcmPath => "WCM_PATH"
  | .wcmTitlePath => "WCM_TITLE_PATH"
  | .authTemplate => "AUTH_TEMPLATE"
  | .referenceUrlName => "REFERENCE_URL_NAME"
  | .contentType => "CONTENT_TYPE"
  | .contentTypeTitle => "CONTENT_TYPE_TITLE"
  | .contentTypePath => "CONTENT_TYPE_PATH"
  | .contentTypePathTitle => "CONTENT_TYPE_PATH_TITLE"
  | .audienceCountry => "AUDIENCE_COUNTRY"
  | .audienceCountryTitle => "AUDIENCE_COUNTRY_TITLE"
  | .audienceCountryPath => "AUDIENCE_COUNTRY_PATH"
  | .audienceCountryPathTitle => "AUDIENCE_COUNTRY_PATH_TITLE"
  | .audienceBrand => "AUDIENCE_BRAND"
  | .audienceBrandTitle => "AUDIENCE_BRAND_TITLE"
  | .relatedHubs => "RELATED_HUBS"
  | .relatedHubsTitle => "RELATED_HUBS_TITLE"
  | .relatedHubsPath => "RELATED_HUBS_PATH"
  | .relatedHubsPathTitle => "RELATED_HUBS_PATH_TITLE"
  | .targetRole => "TARGET_ROLE"
  | .targetRoleTitle => "TARGET_ROLE_TITLE"
  | .targetRolePath => "TARGET_ROLE_PATH"
  | .targetRolePathTitle => "TARGET_ROLE_PATH_TITLE"
  | .portalLocation => "PORTAL_LOCATION"
  | .portalLocationTitle => "PORTAL_LOCATION_TITLE"
  | .portalLocationPath => "PORTAL_LOCATION_PATH"
  | .portalLocationPathTitle => "PORTAL_LOCATION_PATH_TITLE"
  | .categories => "CATEGORIES"
  | .categoriesTitle => "CATEGORIES_TITLE"
  | .categoriesPath => "CATEGORIES_PATH"
  | .categoriesPathTitle => "CATEGORIES_PATH_TITLE"
  | .topics => "TOPICS"
  | .topicsTitle => "TOPICS_TITLE"
  | .topicsPath => "TOPICS_PATH"
  | .topicsTitlePath => "TOPICS_TITLE_PATH"
  | .publishDate => "PUBLISH_DATE"
  | .startDate => "START_DATE"
  | .endDate => "END_DATE"
  | .nameSort => "NAME_SORT"
  | .titleSort => "TITLE_SORT"

def indexName : Field → String
  | .id => "id"
  | .libraryLocale => "documentlibrarylocale"
  | .libraryName => "documentlibraryname"
  | .title => "title"
  | .shortTitle => "shorttitle"
  | .name => "name"
  | .description => "description"
  | .summary => "summary"
  | .answer => "answer"
  | .questionType => "questionType"
  | .location => "location"
  | .imgCaption => "imagecaption"
  | .thumbCaption => "thumbnailcaption"
  | .icon => "icon"
  | .thumbnail => "thumbnail"
  | .image => "image"
  | .link => "link"
  | .moreInfo => "moreInformation"
  | .wcmPath => "wcmpath"
  | .wcmTitlePath => "wcmtitlepath"
  | .authTemplate => "authtemplate"
  | .referenceUrlName => "referenceurlname"
  | .contentType => "contenttype"
  | .contentTypeTitle => "contenttypetitle"
  | .contentTypePath => "contenttypepath"
  | .contentTypePathTitle => "contenttypepathtitle"
  | .audienceCountry => "audiencecountry"
  | .audienceCountryTitle => "audiencecountrytitle"
  | .audienceCountryPath => "audiencecountrypath"
  | .audienceCountryPathTitle => "audiencecountrypathtitle"
  | .audienceBrand => "audiencebrand"
  | .audienceBrandTitle => "audiencebrandtitle"
  | .relatedHubs => "relatedHubs"
  | .relatedHubsTitle => "relatedHubstitle"
  | .relatedHubsPath => "relatedHubspath"
  | .relatedHubsPathTitle => "relatedHubspathtitle"
  | .targetRole => "targetingRole"
  | .targetRoleTitle => "targetingRoletitle"
  | .targetRolePath => "targetingRolepath"
  | .targetRolePathTitle => "targetingRolepathtitle"
  | .portalLocation => "portallocation"
  | .portalLocationTitle => "portallocationtitle"
  | .portalLocationPath => "portallocationpath"
  | .portalLocationPathTitle => "portallocationpathtitle"
  | .categories => "categories"
  | .categoriesTitle => "categoriestitle"
  | .categoriesPath => "categoriespath"
  | .categoriesPathTitle => "categoriespathtitle"
  | .topics => "topics"
  | .topicsTitle => "topicstitle"
  | .topicsPath => "topicspath"
  | .topicsTitlePath => "topicstitlepath"
  | .publishDate => "publishdate"
  | .startDate => "startDateAndTime"
  | .endDate => "endDateAndTime"
  | .nameSort => "namesorting"
  | .titleSort => "titlesorting"

theorem mem_all (f : Field) : f ∈ all := by
  cases f <;> decide

def ofKey? (key : String) : Option Field :=
  all.find? (·.catalogKey == key)

def ofName? (name : String) : Option Field :=
  all.find? (·.indexName == name)

end Field

end SolrRequest
