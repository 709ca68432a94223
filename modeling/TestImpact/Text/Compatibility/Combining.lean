import TestImpact.Text.CodePoint

/-
  Canonical combining classes, and the primary compositions.

  A word of the first table is the first and last character of a run and their
  class; characters of class 0 are not listed. A word of the second table is a
  character, then pairs of a second character and what the two compose to.
-/

namespace TestImpact.Text

private def combiningClassTable : String :=
  "300-314-e6 315-315-e8 316-319-dc 31a-31a-e8 31b-31b-d8 31c-320-dc 321-322-ca 323-326-dc
   327-328-ca 329-333-dc 334-338-1 339-33c-dc 33d-344-e6 345-345-f0 346-346-e6 347-349-dc
   34a-34c-e6 34d-34e-dc 350-352-e6 353-356-dc 357-357-e6 358-358-e8 359-35a-dc 35b-35b-e6
   35c-35c-e9 35d-35e-ea 35f-35f-e9 360-361-ea 362-362-e9 363-36f-e6 483-487-e6 591-591-dc
   592-595-e6 596-596-dc 597-599-e6 59a-59a-de 59b-59b-dc 59c-5a1-e6 5a2-5a7-dc 5a8-5a9-e6
   5aa-5aa-dc 5ab-5ac-e6 5ad-5ad-de 5ae-5ae-e4 5af-5af-e6 5b0-5b0-a 5b1-5b1-b 5b2-5b2-c
   5b3-5b3-d 5b4-5b4-e 5b5-5b5-f 5b6-5b6-10 5b7-5b7-11 5b8-5b8-12 5b9-5ba-13 5bb-5bb-14
   5bc-5bc-15 5bd-5bd-16 5bf-5bf-17 5c1-5c1-18 5c2-5c2-19 5c4-5c4-e6 5c5-5c5-dc 5c7-5c7-12
   610-617-e6 618-618-1e 619-619-1f 61a-61a-20 64b-64b-1b 64c-64c-1c 64d-64d-1d 64e-64e-1e
   64f-64f-1f 650-650-20 651-651-21 652-652-22 653-654-e6 655-656-dc 657-65b-e6 65c-65c-dc
   65d-65e-e6 65f-65f-dc 670-670-23 6d6-6dc-e6 6df-6e2-e6 6e3-6e3-dc 6e4-6e4-e6 6e7-6e8-e6
   6ea-6ea-dc 6eb-6ec-e6 6ed-6ed-dc 711-711-24 730-730-e6 731-731-dc 732-733-e6 734-734-dc
   735-736-e6 737-739-dc 73a-73a-e6 73b-73c-dc 73d-73d-e6 73e-73e-dc 73f-741-e6 742-742-dc
   743-743-e6 744-744-dc 745-745-e6 746-746-dc 747-747-e6 748-748-dc 749-74a-e6 7eb-7f1-e6
   7f2-7f2-dc 7f3-7f3-e6 7fd-7fd-dc 816-819-e6 81b-823-e6 825-827-e6 829-82d-e6 859-85b-dc
   898-898-e6 899-89b-dc 89c-89f-e6 8ca-8ce-e6 8cf-8d3-dc 8d4-8e1-e6 8e3-8e3-dc 8e4-8e5-e6
   8e6-8e6-dc 8e7-8e8-e6 8e9-8e9-dc 8ea-8ec-e6 8ed-8ef-dc 8f0-8f0-1b 8f1-8f1-1c 8f2-8f2-1d
   8f3-8f5-e6 8f6-8f6-dc 8f7-8f8-e6 8f9-8fa-dc 8fb-8ff-e6 93c-93c-7 94d-94d-9 951-951-e6
   952-952-dc 953-954-e6 9bc-9bc-7 9cd-9cd-9 9fe-9fe-e6 a3c-a3c-7 a4d-a4d-9 abc-abc-7
   acd-acd-9 b3c-b3c-7 b4d-b4d-9 bcd-bcd-9 c3c-c3c-7 c4d-c4d-9 c55-c55-54 c56-c56-5b cbc-cbc-7
   ccd-ccd-9 d3b-d3c-9 d4d-d4d-9 dca-dca-9 e38-e39-67 e3a-e3a-9 e48-e4b-6b eb8-eb9-76
   eba-eba-9 ec8-ecb-7a f18-f19-dc f35-f35-dc f37-f37-dc f39-f39-d8 f71-f71-81 f72-f72-82
   f74-f74-84 f7a-f7d-82 f80-f80-82 f82-f83-e6 f84-f84-9 f86-f87-e6 fc6-fc6-dc 1037-1037-7
   1039-103a-9 108d-108d-dc 135d-135f-e6 1714-1715-9 1734-1734-9 17d2-17d2-9 17dd-17dd-e6
   18a9-18a9-e4 1939-1939-de 193a-193a-e6 193b-193b-dc 1a17-1a17-e6 1a18-1a18-dc 1a60-1a60-9
   1a75-1a7c-e6 1a7f-1a7f-dc 1ab0-1ab4-e6 1ab5-1aba-dc 1abb-1abc-e6 1abd-1abd-dc 1abf-1ac0-dc
   1ac1-1ac2-e6 1ac3-1ac4-dc 1ac5-1ac9-e6 1aca-1aca-dc 1acb-1ace-e6 1b34-1b34-7 1b44-1b44-9
   1b6b-1b6b-e6 1b6c-1b6c-dc 1b6d-1b73-e6 1baa-1bab-9 1be6-1be6-7 1bf2-1bf3-9 1c37-1c37-7
   1cd0-1cd2-e6 1cd4-1cd4-1 1cd5-1cd9-dc 1cda-1cdb-e6 1cdc-1cdf-dc 1ce0-1ce0-e6 1ce2-1ce8-1
   1ced-1ced-dc 1cf4-1cf4-e6 1cf8-1cf9-e6 1dc0-1dc1-e6 1dc2-1dc2-dc 1dc3-1dc9-e6 1dca-1dca-dc
   1dcb-1dcc-e6 1dcd-1dcd-ea 1dce-1dce-d6 1dcf-1dcf-dc 1dd0-1dd0-ca 1dd1-1df5-e6 1df6-1df6-e8
   1df7-1df8-e4 1df9-1df9-dc 1dfa-1dfa-da 1dfb-1dfb-e6 1dfc-1dfc-e9 1dfd-1dfd-dc 1dfe-1dfe-e6
   1dff-1dff-dc 20d0-20d1-e6 20d2-20d3-1 20d4-20d7-e6 20d8-20da-1 20db-20dc-e6 20e1-20e1-e6
   20e5-20e6-1 20e7-20e7-e6 20e8-20e8-dc 20e9-20e9-e6 20ea-20eb-1 20ec-20ef-dc 20f0-20f0-e6
   2cef-2cf1-e6 2d7f-2d7f-9 2de0-2dff-e6 302a-302a-da 302b-302b-e4 302c-302c-e8 302d-302d-de
   302e-302f-e0 3099-309a-8 a66f-a66f-e6 a674-a67d-e6 a69e-a69f-e6 a6f0-a6f1-e6 a806-a806-9
   a82c-a82c-9 a8c4-a8c4-9 a8e0-a8f1-e6 a92b-a92d-dc a953-a953-9 a9b3-a9b3-7 a9c0-a9c0-9
   aab0-aab0-e6 aab2-aab3-e6 aab4-aab4-dc aab7-aab8-e6 aabe-aabf-e6 aac1-aac1-e6 aaf6-aaf6-9
   abed-abed-9 fb1e-fb1e-1a fe20-fe26-e6 fe27-fe2d-dc fe2e-fe2f-e6 101fd-101fd-dc
   102e0-102e0-dc 10376-1037a-e6 10a0d-10a0d-dc 10a0f-10a0f-e6 10a38-10a38-e6 10a39-10a39-1
   10a3a-10a3a-dc 10a3f-10a3f-9 10ae5-10ae5-e6 10ae6-10ae6-dc 10d24-10d27-e6 10eab-10eac-e6
   10f46-10f47-dc 10f48-10f4a-e6 10f4b-10f4b-dc 10f4c-10f4c-e6 10f4d-10f50-dc 10f82-10f82-e6
   10f83-10f83-dc 10f84-10f84-e6 10f85-10f85-dc 11046-11046-9 11070-11070-9 1107f-1107f-9
   110b9-110b9-9 110ba-110ba-7 11100-11102-e6 11133-11134-9 11173-11173-7 111c0-111c0-9
   111ca-111ca-7 11235-11235-9 11236-11236-7 112e9-112e9-7 112ea-112ea-9 1133b-1133c-7
   1134d-1134d-9 11366-1136c-e6 11370-11374-e6 11442-11442-9 11446-11446-7 1145e-1145e-e6
   114c2-114c2-9 114c3-114c3-7 115bf-115bf-9 115c0-115c0-7 1163f-1163f-9 116b6-116b6-9
   116b7-116b7-7 1172b-1172b-9 11839-11839-9 1183a-1183a-7 1193d-1193e-9 11943-11943-7
   119e0-119e0-9 11a34-11a34-9 11a47-11a47-9 11a99-11a99-9 11c3f-11c3f-9 11d42-11d42-7
   11d44-11d45-9 11d97-11d97-9 16af0-16af4-1 16b30-16b36-e6 16ff0-16ff1-6 1bc9e-1bc9e-1
   1d165-1d166-d8 1d167-1d169-1 1d16d-1d16d-e2 1d16e-1d172-d8 1d17b-1d182-dc 1d185-1d189-e6
   1d18a-1d18b-dc 1d1aa-1d1ad-e6 1d242-1d244-e6 1e000-1e006-e6 1e008-1e018-e6 1e01b-1e021-e6
   1e023-1e024-e6 1e026-1e02a-e6 1e130-1e136-e6 1e2ae-1e2ae-e6 1e2ec-1e2ef-e6 1e8d0-1e8d6-dc
   1e944-1e949-e6 1e94a-1e94a-7"

private def compositionTable : String :=
  "3c-338-226e 3d-338-2260 3e-338-226f
   41-300-c0-301-c1-302-c2-303-c3-304-100-306-102-307-226-308-c4-309-1ea2-30a-c5-30c-1cd-30f-200-311-202-323-1ea0-325-1e00-328-104
   42-307-1e02-323-1e04-331-1e06 43-301-106-302-108-307-10a-30c-10c-327-c7
   44-307-1e0a-30c-10e-323-1e0c-327-1e10-32d-1e12-331-1e0e
   45-300-c8-301-c9-302-ca-303-1ebc-304-112-306-114-307-116-308-cb-309-1eba-30c-11a-30f-204-311-206-323-1eb8-327-228-328-118-32d-1e18-330-1e1a
   46-307-1e1e 47-301-1f4-302-11c-304-1e20-306-11e-307-120-30c-1e6-327-122
   48-302-124-307-1e22-308-1e26-30c-21e-323-1e24-327-1e28-32e-1e2a
   49-300-cc-301-cd-302-ce-303-128-304-12a-306-12c-307-130-308-cf-309-1ec8-30c-1cf-30f-208-311-20a-323-1eca-328-12e-330-1e2c
   4a-302-134 4b-301-1e30-30c-1e8-323-1e32-327-136-331-1e34
   4c-301-139-30c-13d-323-1e36-327-13b-32d-1e3c-331-1e3a 4d-301-1e3e-307-1e40-323-1e42
   4e-300-1f8-301-143-303-d1-307-1e44-30c-147-323-1e46-327-145-32d-1e4a-331-1e48
   4f-300-d2-301-d3-302-d4-303-d5-304-14c-306-14e-307-22e-308-d6-309-1ece-30b-150-30c-1d1-30f-20c-311-20e-31b-1a0-323-1ecc-328-1ea
   50-301-1e54-307-1e56 52-301-154-307-1e58-30c-158-30f-210-311-212-323-1e5a-327-156-331-1e5e
   53-301-15a-302-15c-307-1e60-30c-160-323-1e62-326-218-327-15e
   54-307-1e6a-30c-164-323-1e6c-326-21a-327-162-32d-1e70-331-1e6e
   55-300-d9-301-da-302-db-303-168-304-16a-306-16c-308-dc-309-1ee6-30a-16e-30b-170-30c-1d3-30f-214-311-216-31b-1af-323-1ee4-324-1e72-328-172-32d-1e76-330-1e74
   56-303-1e7c-323-1e7e 57-300-1e80-301-1e82-302-174-307-1e86-308-1e84-323-1e88
   58-307-1e8a-308-1e8c
   59-300-1ef2-301-dd-302-176-303-1ef8-304-232-307-1e8e-308-178-309-1ef6-323-1ef4
   5a-301-179-302-1e90-307-17b-30c-17d-323-1e92-331-1e94
   61-300-e0-301-e1-302-e2-303-e3-304-101-306-103-307-227-308-e4-309-1ea3-30a-e5-30c-1ce-30f-201-311-203-323-1ea1-325-1e01-328-105
   62-307-1e03-323-1e05-331-1e07 63-301-107-302-109-307-10b-30c-10d-327-e7
   64-307-1e0b-30c-10f-323-1e0d-327-1e11-32d-1e13-331-1e0f
   65-300-e8-301-e9-302-ea-303-1ebd-304-113-306-115-307-117-308-eb-309-1ebb-30c-11b-30f-205-311-207-323-1eb9-327-229-328-119-32d-1e19-330-1e1b
   66-307-1e1f 67-301-1f5-302-11d-304-1e21-306-11f-307-121-30c-1e7-327-123
   68-302-125-307-1e23-308-1e27-30c-21f-323-1e25-327-1e29-32e-1e2b-331-1e96
   69-300-ec-301-ed-302-ee-303-129-304-12b-306-12d-308-ef-309-1ec9-30c-1d0-30f-209-311-20b-323-1ecb-328-12f-330-1e2d
   6a-302-135-30c-1f0 6b-301-1e31-30c-1e9-323-1e33-327-137-331-1e35
   6c-301-13a-30c-13e-323-1e37-327-13c-32d-1e3d-331-1e3b 6d-301-1e3f-307-1e41-323-1e43
   6e-300-1f9-301-144-303-f1-307-1e45-30c-148-323-1e47-327-146-32d-1e4b-331-1e49
   6f-300-f2-301-f3-302-f4-303-f5-304-14d-306-14f-307-22f-308-f6-309-1ecf-30b-151-30c-1d2-30f-20d-311-20f-31b-1a1-323-1ecd-328-1eb
   70-301-1e55-307-1e57 72-301-155-307-1e59-30c-159-30f-211-311-213-323-1e5b-327-157-331-1e5f
   73-301-15b-302-15d-307-1e61-30c-161-323-1e63-326-219-327-15f
   74-307-1e6b-308-1e97-30c-165-323-1e6d-326-21b-327-163-32d-1e71-331-1e6f
   75-300-f9-301-fa-302-fb-303-169-304-16b-306-16d-308-fc-309-1ee7-30a-16f-30b-171-30c-1d4-30f-215-311-217-31b-1b0-323-1ee5-324-1e73-328-173-32d-1e77-330-1e75
   76-303-1e7d-323-1e7f 77-300-1e81-301-1e83-302-175-307-1e87-308-1e85-30a-1e98-323-1e89
   78-307-1e8b-308-1e8d
   79-300-1ef3-301-fd-302-177-303-1ef9-304-233-307-1e8f-308-ff-309-1ef7-30a-1e99-323-1ef5
   7a-301-17a-302-1e91-307-17c-30c-17e-323-1e93-331-1e95 a8-300-1fed-301-385-342-1fc1
   c2-300-1ea6-301-1ea4-303-1eaa-309-1ea8 c4-304-1de c5-301-1fa c6-301-1fc-304-1e2 c7-301-1e08
   ca-300-1ec0-301-1ebe-303-1ec4-309-1ec2 cf-301-1e2e d4-300-1ed2-301-1ed0-303-1ed6-309-1ed4
   d5-301-1e4c-304-22c-308-1e4e d6-304-22a d8-301-1fe dc-300-1db-301-1d7-304-1d5-30c-1d9
   e2-300-1ea7-301-1ea5-303-1eab-309-1ea9 e4-304-1df e5-301-1fb e6-301-1fd-304-1e3 e7-301-1e09
   ea-300-1ec1-301-1ebf-303-1ec5-309-1ec3 ef-301-1e2f f4-300-1ed3-301-1ed1-303-1ed7-309-1ed5
   f5-301-1e4d-304-22d-308-1e4f f6-304-22b f8-301-1ff fc-300-1dc-301-1d8-304-1d6-30c-1da
   102-300-1eb0-301-1eae-303-1eb4-309-1eb2 103-300-1eb1-301-1eaf-303-1eb5-309-1eb3
   112-300-1e14-301-1e16 113-300-1e15-301-1e17 14c-300-1e50-301-1e52 14d-300-1e51-301-1e53
   15a-307-1e64 15b-307-1e65 160-307-1e66 161-307-1e67 168-301-1e78 169-301-1e79 16a-308-1e7a
   16b-308-1e7b 17f-307-1e9b 1a0-300-1edc-301-1eda-303-1ee0-309-1ede-323-1ee2
   1a1-300-1edd-301-1edb-303-1ee1-309-1edf-323-1ee3
   1af-300-1eea-301-1ee8-303-1eee-309-1eec-323-1ef0
   1b0-300-1eeb-301-1ee9-303-1eef-309-1eed-323-1ef1 1b7-30c-1ee 1ea-304-1ec 1eb-304-1ed
   226-304-1e0 227-304-1e1 228-306-1e1c 229-306-1e1d 22e-304-230 22f-304-231 292-30c-1ef
   391-300-1fba-301-386-304-1fb9-306-1fb8-313-1f08-314-1f09-345-1fbc
   395-300-1fc8-301-388-313-1f18-314-1f19 397-300-1fca-301-389-313-1f28-314-1f29-345-1fcc
   399-300-1fda-301-38a-304-1fd9-306-1fd8-308-3aa-313-1f38-314-1f39
   39f-300-1ff8-301-38c-313-1f48-314-1f49 3a1-314-1fec
   3a5-300-1fea-301-38e-304-1fe9-306-1fe8-308-3ab-314-1f59
   3a9-300-1ffa-301-38f-313-1f68-314-1f69-345-1ffc 3ac-345-1fb4 3ae-345-1fc4
   3b1-300-1f70-301-3ac-304-1fb1-306-1fb0-313-1f00-314-1f01-342-1fb6-345-1fb3
   3b5-300-1f72-301-3ad-313-1f10-314-1f11
   3b7-300-1f74-301-3ae-313-1f20-314-1f21-342-1fc6-345-1fc3
   3b9-300-1f76-301-3af-304-1fd1-306-1fd0-308-3ca-313-1f30-314-1f31-342-1fd6
   3bf-300-1f78-301-3cc-313-1f40-314-1f41 3c1-313-1fe4-314-1fe5
   3c5-300-1f7a-301-3cd-304-1fe1-306-1fe0-308-3cb-313-1f50-314-1f51-342-1fe6
   3c9-300-1f7c-301-3ce-313-1f60-314-1f61-342-1ff6-345-1ff3 3ca-300-1fd2-301-390-342-1fd7
   3cb-300-1fe2-301-3b0-342-1fe7 3ce-345-1ff4 3d2-301-3d3-308-3d4 406-308-407
   410-306-4d0-308-4d2 413-301-403 415-300-400-306-4d6-308-401 416-306-4c1-308-4dc 417-308-4de
   418-300-40d-304-4e2-306-419-308-4e4 41a-301-40c 41e-308-4e6
   423-304-4ee-306-40e-308-4f0-30b-4f2 427-308-4f4 42b-308-4f8 42d-308-4ec 430-306-4d1-308-4d3
   433-301-453 435-300-450-306-4d7-308-451 436-306-4c2-308-4dd 437-308-4df
   438-300-45d-304-4e3-306-439-308-4e5 43a-301-45c 43e-308-4e7
   443-304-4ef-306-45e-308-4f1-30b-4f3 447-308-4f5 44b-308-4f9 44d-308-4ed 456-308-457
   474-30f-476 475-30f-477 4d8-308-4da 4d9-308-4db 4e8-308-4ea 4e9-308-4eb
   627-653-622-654-623-655-625 648-654-624 64a-654-626 6c1-654-6c2 6d2-654-6d3 6d5-654-6c0
   928-93c-929 930-93c-931 933-93c-934 9c7-9be-9cb-9d7-9cc b47-b3e-b4b-b56-b48-b57-b4c
   b92-bd7-b94 bc6-bbe-bca-bd7-bcc bc7-bbe-bcb c46-c56-c48 cbf-cd5-cc0
   cc6-cc2-cca-cd5-cc7-cd6-cc8 cca-cd5-ccb d46-d3e-d4a-d57-d4c d47-d3e-d4b
   dd9-dca-dda-dcf-ddc-ddf-dde ddc-dca-ddd 1025-102e-1026 1b05-1b35-1b06 1b07-1b35-1b08
   1b09-1b35-1b0a 1b0b-1b35-1b0c 1b0d-1b35-1b0e 1b11-1b35-1b12 1b3a-1b35-1b3b 1b3c-1b35-1b3d
   1b3e-1b35-1b40 1b3f-1b35-1b41 1b42-1b35-1b43 1e36-304-1e38 1e37-304-1e39 1e5a-304-1e5c
   1e5b-304-1e5d 1e62-307-1e68 1e63-307-1e69 1ea0-302-1eac-306-1eb6 1ea1-302-1ead-306-1eb7
   1eb8-302-1ec6 1eb9-302-1ec7 1ecc-302-1ed8 1ecd-302-1ed9
   1f00-300-1f02-301-1f04-342-1f06-345-1f80 1f01-300-1f03-301-1f05-342-1f07-345-1f81
   1f02-345-1f82 1f03-345-1f83 1f04-345-1f84 1f05-345-1f85 1f06-345-1f86 1f07-345-1f87
   1f08-300-1f0a-301-1f0c-342-1f0e-345-1f88 1f09-300-1f0b-301-1f0d-342-1f0f-345-1f89
   1f0a-345-1f8a 1f0b-345-1f8b 1f0c-345-1f8c 1f0d-345-1f8d 1f0e-345-1f8e 1f0f-345-1f8f
   1f10-300-1f12-301-1f14 1f11-300-1f13-301-1f15 1f18-300-1f1a-301-1f1c 1f19-300-1f1b-301-1f1d
   1f20-300-1f22-301-1f24-342-1f26-345-1f90 1f21-300-1f23-301-1f25-342-1f27-345-1f91
   1f22-345-1f92 1f23-345-1f93 1f24-345-1f94 1f25-345-1f95 1f26-345-1f96 1f27-345-1f97
   1f28-300-1f2a-301-1f2c-342-1f2e-345-1f98 1f29-300-1f2b-301-1f2d-342-1f2f-345-1f99
   1f2a-345-1f9a 1f2b-345-1f9b 1f2c-345-1f9c 1f2d-345-1f9d 1f2e-345-1f9e 1f2f-345-1f9f
   1f30-300-1f32-301-1f34-342-1f36 1f31-300-1f33-301-1f35-342-1f37
   1f38-300-1f3a-301-1f3c-342-1f3e 1f39-300-1f3b-301-1f3d-342-1f3f 1f40-300-1f42-301-1f44
   1f41-300-1f43-301-1f45 1f48-300-1f4a-301-1f4c 1f49-300-1f4b-301-1f4d
   1f50-300-1f52-301-1f54-342-1f56 1f51-300-1f53-301-1f55-342-1f57
   1f59-300-1f5b-301-1f5d-342-1f5f 1f60-300-1f62-301-1f64-342-1f66-345-1fa0
   1f61-300-1f63-301-1f65-342-1f67-345-1fa1 1f62-345-1fa2 1f63-345-1fa3 1f64-345-1fa4
   1f65-345-1fa5 1f66-345-1fa6 1f67-345-1fa7 1f68-300-1f6a-301-1f6c-342-1f6e-345-1fa8
   1f69-300-1f6b-301-1f6d-342-1f6f-345-1fa9 1f6a-345-1faa 1f6b-345-1fab 1f6c-345-1fac
   1f6d-345-1fad 1f6e-345-1fae 1f6f-345-1faf 1f70-345-1fb2 1f74-345-1fc2 1f7c-345-1ff2
   1fb6-345-1fb7 1fbf-300-1fcd-301-1fce-342-1fcf 1fc6-345-1fc7 1ff6-345-1ff7
   1ffe-300-1fdd-301-1fde-342-1fdf 2190-338-219a 2192-338-219b 2194-338-21ae 21d0-338-21cd
   21d2-338-21cf 21d4-338-21ce 2203-338-2204 2208-338-2209 220b-338-220c 2223-338-2224
   2225-338-2226 223c-338-2241 2243-338-2244 2245-338-2247 2248-338-2249 224d-338-226d
   2261-338-2262 2264-338-2270 2265-338-2271 2272-338-2274 2273-338-2275 2276-338-2278
   2277-338-2279 227a-338-2280 227b-338-2281 227c-338-22e0 227d-338-22e1 2282-338-2284
   2283-338-2285 2286-338-2288 2287-338-2289 2291-338-22e2 2292-338-22e3 22a2-338-22ac
   22a8-338-22ad 22a9-338-22ae 22ab-338-22af 22b2-338-22ea 22b3-338-22eb 22b4-338-22ec
   22b5-338-22ed 3046-3099-3094 304b-3099-304c 304d-3099-304e 304f-3099-3050 3051-3099-3052
   3053-3099-3054 3055-3099-3056 3057-3099-3058 3059-3099-305a 305b-3099-305c 305d-3099-305e
   305f-3099-3060 3061-3099-3062 3064-3099-3065 3066-3099-3067 3068-3099-3069
   306f-3099-3070-309a-3071 3072-3099-3073-309a-3074 3075-3099-3076-309a-3077
   3078-3099-3079-309a-307a 307b-3099-307c-309a-307d 309d-3099-309e 30a6-3099-30f4
   30ab-3099-30ac 30ad-3099-30ae 30af-3099-30b0 30b1-3099-30b2 30b3-3099-30b4 30b5-3099-30b6
   30b7-3099-30b8 30b9-3099-30ba 30bb-3099-30bc 30bd-3099-30be 30bf-3099-30c0 30c1-3099-30c2
   30c4-3099-30c5 30c6-3099-30c7 30c8-3099-30c9 30cf-3099-30d0-309a-30d1
   30d2-3099-30d3-309a-30d4 30d5-3099-30d6-309a-30d7 30d8-3099-30d9-309a-30da
   30db-3099-30dc-309a-30dd 30ef-3099-30f7 30f0-3099-30f8 30f1-3099-30f9 30f2-3099-30fa
   30fd-3099-30fe 11099-110ba-1109a 1109b-110ba-1109c 110a5-110ba-110ab 11131-11127-1112e
   11132-11127-1112f 11347-1133e-1134b-11357-1134c 114b9-114b0-114bc-114ba-114bb-114bd-114be
   115b8-115af-115ba 115b9-115af-115bb 11935-11930-11938"

/-- The combining classes other than 0. -/
def combiningClasses : CodePointMap Nat := CodePointMap.ofTriples combiningClassTable

/-- Whether a code point is one of the letters that Hangul syllables are made of. -/
def isJamo (n : Nat) : Bool := 0x1100 ≤ n && n < 0x1200

/-- The combining class of a character; letters of Hangul have class 0. -/
def combiningClass (n : Nat) : Nat :=
  if isJamo n then 0 else (combiningClasses.findCode? n).getD 0

/-- For each character that starts a composition, its second characters and the results. -/
def compositions : CodePointMap (List Nat) := CodePointMap.ofWords compositionTable

end TestImpact.Text
